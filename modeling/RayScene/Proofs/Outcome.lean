namespace RayScene.Outcome

variable {ε α β : Type}

theorem bind_eq_ok {x : Except ε α} {f : α → Except ε β} {b : β} :
    (x >>= f) = .ok b ↔ ∃ a, x = .ok a ∧ f a = .ok b := by
  cases x with
  | error e => simp [bind, Except.bind]
  | ok a => simp [bind, Except.bind]

theorem bind_eq_error {x : Except ε α} {f : α → Except ε β} {e : ε} :
    (x >>= f) = .error e ↔ x = .error e ∨ ∃ a, x = .ok a ∧ f a = .error e := by
  cases x with
  | error e => simp [bind, Except.bind]
  | ok a => simp [bind, Except.bind]

@[simp] theorem ok_bind (a : α) (f : α → Except ε β) : (Except.ok a >>= f) = f a := rfl

theorem toOption_eq_some {x : Except ε α} {a : α} : x.toOption = some a ↔ x = .ok a := by
  cases x with
  | error e => simp [Except.toOption]
  | ok b => simp [Except.toOption]

/-- A list is mapped if each of its members is. -/
theorem mapM_ok {f : α → Except ε β} {list : List α} (each : ∀ a ∈ list, ∃ b, f a = .ok b) :
    ∃ mapped, list.mapM f = .ok mapped ∧ mapped.length = list.length := by
  induction list with
  | nil => exact ⟨[], rfl, rfl⟩
  | cons a list ih =>
      obtain ⟨b, first⟩ := each a List.mem_cons_self
      obtain ⟨mapped, others, length⟩ := ih fun other member => each other (.tail _ member)
      refine ⟨b :: mapped, ?_, congrArg Nat.succ length⟩
      rw [List.mapM_cons, first, ok_bind, others, ok_bind]
      rfl

section Checks

variable {condition : Prop} [Decidable condition] {error : ε} {a : α}

theorem required_eq_ok (rest : Except ε α) :
    (if condition then rest else throw error >>= fun _ : PUnit => rest) = .ok a ↔
      condition ∧ rest = .ok a := by
  by_cases holds : condition
  · simp [holds]
  · simp [holds, throw, throwThe, MonadExceptOf.throw, bind, Except.bind]

theorem excluded_eq_ok (rest : Except ε α) :
    (if condition then throw error >>= fun _ : PUnit => rest else rest) = .ok a ↔
      ¬ condition ∧ rest = .ok a := by
  by_cases holds : condition
  · simp [holds, throw, throwThe, MonadExceptOf.throw, bind, Except.bind]
  · simp [holds]

end Checks

end RayScene.Outcome
