import RayScene.Json.Typed

namespace RayScene.Json

variable {α β σ : Type}

theorem bind_ok {x : Reader α} {f : α → Reader β} {c d : Cursor} {b : β} :
    (x >>= f) c = .ok b d ↔ ∃ a e, x c = .ok a e ∧ f a e = .ok b d := by
  show EStateM.bind x f c = .ok b d ↔ _
  unfold EStateM.bind
  cases x c with
  | ok a e =>
      constructor
      · intro rest
        exact ⟨a, e, rfl, rest⟩
      · rintro ⟨a, e, one, rest⟩
        cases one
        exact rest
  | error failure e => simp

def Yields (P : α → Prop) (reader : Reader α) : Prop := ∀ c a d, reader c = .ok a d → P a

variable {P : α → Prop} {Q : β → Prop} {reader : Reader α}

theorem Yields.pure {a : α} (holds : P a) : Yields P (Pure.pure a) := by
  intro c b d read
  cases read
  exact holds

theorem Yields.bind {f : α → Reader β} (first : Yields P reader)
    (rest : ∀ a, P a → Yields Q (f a)) : Yields Q (reader >>= f) := by
  intro c b d read
  obtain ⟨a, e, one, others⟩ := bind_ok.mp read
  exact rest a (first c a e one) e b d others

theorem Yields.last {f : α → Reader β} (rest : ∀ a, Yields Q (f a)) : Yields Q (reader >>= f) :=
  Yields.bind (P := fun _ => True) (fun _ _ _ _ => trivial) fun a _ => rest a

theorem Yields.never {failure : Failure} : Yields P (throw failure : Reader α) := by
  intro c a d read
  cases read

theorem reject_yields (fault : Fault) : Yields P (reject fault : Reader α) := .never

theorem failHere_yields (fault : Fault) : Yields P (failHere fault : Reader α) :=
  .last fun _ => .never

theorem failNext_yields (fault : Fault) : Yields P (failNext fault : Reader α) :=
  .last fun _ => .never

theorem Yields.placed (yields : Yields P reader) : Yields P (placed reader) := by
  intro c a d read
  unfold Json.placed at read
  split at read
  next => cases read
  next => exact yields c a d read

theorem Yields.closedBy (close : Reader Unit) (yields : Yields P reader) :
    Yields P (closedBy close reader) := by
  intro c a d read
  unfold Json.closedBy at read
  split at read
  next value e one =>
    split at read
    next =>
      cases read
      exact yields c a e one
    next => cases read
  next => split at read <;> cases read

theorem ofExcept_yields {result : Except Fault α} (holds : ∀ a, result = .ok a → P a) :
    Yields P (ofExcept result) := by
  cases result with
  | ok a => exact .pure (holds a rfl)
  | error fault => exact .never

def bracketed (close : Reader Unit) (levels : Nat) (body : Nat → Reader α) : Reader α :=
  match levels with
  | 0 => failNext .tooManyLevels
  | inner + 1 => skip >>= fun _ => placed (closedBy close (body inner))

theorem bracketed_yields (close : Reader Unit) (levels : Nat) {body : Nat → Reader α}
    (yields : ∀ inner, Yields P (body inner)) : Yields P (bracketed close levels body) := by
  cases levels with
  | zero => exact failNext_yields _
  | succ inner => exact .last fun _ => ((yields inner).closedBy close).placed

theorem inList_yields (levels : Nat) {body : Nat → Reader α}
    (yields : ∀ inner, Yields P (body inner)) : Yields P (inList levels body) :=
  bracketed_yields closeList levels yields

theorem inObject_yields (levels : Nat) {body : Nat → Reader α}
    (yields : ∀ inner, Yields P (body inner)) : Yields P (inObject levels body) :=
  bracketed_yields closeObject levels yields

theorem mistyped_yields (expected : String) : Yields P (mistyped expected : Reader α) := by
  unfold mistyped
  refine (Yields.last fun c => ?_).placed
  split
  next => exact .last fun _ => .last fun _ => reject_yields _
  next => exact .last fun _ => .last fun _ => reject_yields _
  next => exact .last fun _ => .last fun _ => reject_yields _
  next => exact .last fun _ => .last fun _ => reject_yields _
  next => exact reject_yields _
  next => exact reject_yields _
  next =>
    split
    next => exact .last fun _ => reject_yields _
    next => exact failNext_yields _
  next => exact failNext_yields _

theorem elementsFrom_yields (yields : Yields P reader) (count : Nat) (first : Bool) :
    Yields (fun as => ∀ a ∈ as, P a) (elementsFrom reader count first) := by
  have none : Yields (fun as => ∀ a ∈ as, P a) (Pure.pure [] : Reader (List α)) := by
    apply Yields.pure
    simp
  induction count generalizing first with
  | zero => exact none
  | succ count ih =>
      refine .last fun more => ?_
      split
      next =>
        refine yields.bind fun a one => (ih false).bind fun others rest => ?_
        apply Yields.pure
        exact List.forall_mem_cons.mpr ⟨one, rest⟩
      next => exact none

theorem elements_yields (yields : Yields P reader) :
    Yields (fun as => ∀ a ∈ as, P a) (elements reader) :=
  .last fun _ => elementsFrom_yields yields _ true

theorem list_yields (levels : Nat) {element : Nat → Reader α}
    (yields : ∀ inner, Yields P (element inner)) :
    Yields (fun as => ∀ a ∈ as, P a) (list levels element) := by
  refine .last fun c => ?_
  split
  next => exact inList_yields levels fun inner => elements_yields (yields inner)
  next => exact mistyped_yields _

theorem membersFrom_yields {member : σ → String → Reader σ} {P : σ → Prop}
    (yields : ∀ gathered key, P gathered → Yields P (member gathered key)) (count : Nat)
    (first : Bool) {gathered : σ} (holds : P gathered) :
    Yields P (membersFrom member count first gathered) := by
  induction count generalizing first gathered with
  | zero => exact .pure holds
  | succ count ih =>
      refine .last fun key => ?_
      split
      next key => exact (yields gathered key holds).bind fun more holds => ih false holds
      next => exact .pure holds

theorem members_yields {member : σ → String → Reader σ} {empty : σ} {P : σ → Prop}
    (start : P empty) (yields : ∀ gathered key, P gathered → Yields P (member gathered key)) :
    Yields P (members member empty) :=
  .last fun _ => membersFrom_yields yields _ true start

namespace Record

variable {D : σ → Prop} {fields : List (Field σ)}

theorem fieldsInOrder_yields
    (reads : ∀ field ∈ fields, ∀ draft, D draft → Yields D (field.read draft))
    (first : Bool) (draft : σ) (holds : D draft) : Yields D (fieldsInOrder fields first draft) := by
  induction fields generalizing first draft with
  | nil => exact .pure holds
  | cons field fields ih =>
      have ⟨own, others⟩ := List.forall_mem_cons.mp reads
      refine .last fun more => ?_
      split
      next => exact (own draft holds).bind fun draft holds => ih others false draft holds
      next => exact .pure holds

theorem member_yields {record : Record σ α}
    (reads : ∀ field ∈ record.fields, ∀ draft, D draft → Yields D (field.read draft))
    (draft : σ) (key : String) (holds : D draft) : Yields D (record.member draft key) := by
  unfold Record.member
  split
  next field found =>
    have own : Yields D (field.read draft) :=
      reads field (List.mem_of_find?_eq_some found) draft holds
    split
    next => exact .last fun _ => .last fun _ => own
    next => exact .last fun _ => own
  next =>
    have kept : Yields D (Pure.pure draft : Reader σ) := .pure holds
    split
    next => exact .last fun _ => .last fun _ => .last fun _ => kept
    next => exact .last fun _ => .last fun _ => kept

/-- What the fields of a record leave in its draft decides on the record. -/
theorem read_yields {record : Nat → Record σ α} (levels : Nat)
    (start : ∀ inner, D (record inner).draft)
    (reads : ∀ inner, ∀ field ∈ (record inner).fields, ∀ draft, D draft →
      Yields D (field.read draft))
    (finish : ∀ inner missing draft a, D draft →
      (record inner).finish missing draft = .ok a → P a) :
    Yields P (Record.read record levels) := by
  have finished (inner : Nat) (missing : Nat → String → Fault) (draft : σ) (holds : D draft) :
      Yields P (ofExcept ((record inner).finish missing draft)) :=
    ofExcept_yields fun a ok => finish inner missing draft a holds ok
  refine .last fun c => ?_
  split
  next =>
    refine inList_yields levels fun inner => ?_
    refine (fieldsInOrder_yields (reads inner) true _ (start inner)).bind fun draft holds => ?_
    exact finished inner _ draft holds
  next =>
    refine inObject_yields levels fun inner => ?_
    refine (members_yields (start inner) (member_yields (reads inner))).bind fun draft holds => ?_
    exact finished inner _ draft holds
  next => exact mistyped_yields _

end Record

end RayScene.Json
