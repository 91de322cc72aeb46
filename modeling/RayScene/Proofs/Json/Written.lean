import RayScene.Proofs.Json.Delimited
import RayScene.Proofs.Json.Records

/-!
Reading what has been written without blanks. A reader is described by the bytes that it takes in
front of what follows, so that the readers of numbers make up those of lists and records.
-/

namespace RayScene.Json

open Cursor (charOf isBlank)

def bytesOf (text : String) : List UInt8 := text.toUTF8.toList

theorem toList_loop (b : ByteArray) (i : Nat) (found : List UInt8) :
    ByteArray.toList.loop b i found = found.reverse ++ b.data.toList.drop i := by
  fun_induction ByteArray.toList.loop b i found with
  | case1 i found more ih =>
      have head : b.data.toList.drop i = b.get! i :: b.data.toList.drop (i + 1) := by
        have split := List.drop_eq_getElem_cons (l := b.data.toList) more
        simpa [ByteArray.get!, more] using split
      rw [ih, head, List.reverse_cons, List.append_assoc, List.singleton_append]
  | case2 i found done =>
      have none : b.data.toList.drop i = [] := List.drop_eq_nil_iff.mpr (Nat.le_of_not_lt done)
      rw [none, List.append_nil]

theorem bytesOf_data (text : String) : bytesOf text = text.toByteArray.data.toList :=
  toList_loop text.toByteArray 0 []

theorem bytesOf_eq (text : String) : bytesOf text = text.toList.flatMap String.utf8EncodeChar := by
  rw [bytesOf_data, ← String.utf8Encode_toList, List.utf8Encode, List.toList_data_toByteArray]

theorem fromUTF8?_bytesOf (text : String) :
    String.fromUTF8? ⟨(bytesOf text).toArray⟩ = some text := by
  rw [bytesOf_data]
  exact dif_pos text.isValidUTF8

theorem bytesOf_append (first second : String) :
    bytesOf (first ++ second) = bytesOf first ++ bytesOf second := by
  rw [bytesOf_eq, bytesOf_eq, bytesOf_eq, String.toList_append, List.flatMap_append]

def byteOf (c : Char) : UInt8 := UInt8.ofNat c.toNat

theorem charOf_byteOf {c : Char} (ascii : c.toNat < 128) : charOf (byteOf c) = c := by
  rw [charOf, byteOf, UInt8.toNat_ofNat_of_lt' (Nat.lt_trans ascii (by decide)), Char.ofNat_toNat]

theorem bytesOf_ascii {text : String} (ascii : ∀ c ∈ text.toList, c.toNat < 128) :
    bytesOf text = text.toList.map byteOf := by
  have one : ∀ c ∈ text.toList, String.utf8EncodeChar c = [byteOf c] := by
    intro c member
    exact if_pos (Nat.le_of_lt_succ (ascii c member))
  rw [bytesOf_eq, List.flatMap_def, List.map_congr_left one, ← List.flatMap_def]
  exact List.map_eq_flatMap.symm

variable {text more behind : List UInt8} {α β σ : Type} {p : Reader α} {result : Option β}

def remaining : EStateM.Result Failure Cursor α → Option (α × List UInt8)
  | .ok v d => some (v, d.rest)
  | .error .. => none

/-- The reader takes the text in front of `behind` and gives the result, or fails without one. -/
def Reads (p : Reader α) (text : List UInt8) (result : Option α) (behind : List UInt8) : Prop :=
  ∀ c : Cursor, c.rest = text ++ behind → remaining (p c) = result.map (·, behind)

theorem remaining_eq_some {r : EStateM.Result Failure Cursor α} {v : α} {rest : List UInt8} :
    remaining r = some (v, rest) ↔ ∃ d, r = .ok v d ∧ d.rest = rest := by
  cases r with
  | ok w d =>
      simp only [remaining, Option.some.injEq, Prod.mk.injEq, EStateM.Result.ok.injEq]
      constructor
      · rintro ⟨rfl, left⟩
        exact ⟨d, ⟨rfl, rfl⟩, left⟩
      · rintro ⟨e, ⟨rfl, rfl⟩, left⟩
        exact ⟨rfl, left⟩
  | error => simp [remaining]

theorem remaining_eq_none {r : EStateM.Result Failure Cursor α} :
    remaining r = none ↔ ∃ failure d, r = .error failure d := by
  cases r <;> simp [remaining]

theorem Never.reads (never : Never p) : Reads p text none behind := by
  intro c _
  cases read : p c with
  | ok v d => exact (never c v d read).elim
  | error => rfl

namespace Reads

theorem pure (v : α) : Reads (Pure.pure v) [] (some v) behind := by
  intro c here
  exact congrArg (fun rest => some (v, rest)) here

theorem bind {f : α → Reader β} {v : α} (first : Reads p text (some v) (more ++ behind))
    (rest : Reads (f v) more result behind) : Reads (p >>= f) (text ++ more) result behind := by
  intro c here
  rw [List.append_assoc] at here
  obtain ⟨d, one, left⟩ := remaining_eq_some.mp (first c here)
  rw [← rest d left]
  show remaining (EStateM.bind p f c) = _
  rw [EStateM.bind, one]

theorem bind_none {f : α → Reader β} (first : Reads p text none behind) :
    Reads (p >>= f) text none behind := by
  intro c here
  obtain ⟨failure, d, fails⟩ := remaining_eq_none.mp (first c here)
  show remaining (EStateM.bind p f c) = none
  rw [EStateM.bind, fails]
  rfl

theorem bind_last {f : α → Reader β} {v : α} (first : Reads p text (some v) behind)
    (rest : Reads (f v) [] result behind) : Reads (p >>= f) text result behind := by
  have both := bind first rest
  rwa [List.append_nil] at both

theorem map {f : α → β} {result : Option α} (reads : Reads p text result behind) :
    Reads (f <$> p) text (result.map f) behind := by
  rw [map_eq_pure_bind]
  cases result with
  | none => exact reads.bind_none
  | some v => exact bind_last reads (pure (f v))

theorem placed {result : Option α} (reads : Reads p text result behind) :
    Reads (placed p) text result behind := by
  intro c here
  rw [← reads c here, Json.placed]
  split
  next same => rw [same]; rfl
  next => rfl

theorem skip {b : UInt8} {g : Unit → Reader β} (rest : Reads (g ()) more result behind) :
    Reads (Json.skip >>= g) (b :: more) result behind := by
  intro c here
  refine rest c.advance ?_
  rw [Cursor.advance_rest, here]
  rfl

theorem peek {b : UInt8} {rest : List UInt8} {f : Option Char → Reader β}
    (ahead : text ++ behind = b :: rest) (reads : Reads (f (some (charOf b))) text result behind) :
    Reads (Json.peek >>= f) text result behind := by
  intro c here
  rw [peek_bind, here, ahead]
  exact reads c here

/-- Looks at the next byte, which is no blank. -/
theorem look {b : UInt8} {rest : List UInt8} {f : Option Char → Reader β}
    (ahead : text ++ behind = b :: rest) (solid : isBlank b = false)
    (reads : Reads (f (some (charOf b))) text result behind) :
    Reads (peekSolid >>= f) text result behind := by
  intro c here
  have stays : c.solid = c := by
    obtain ⟨left, line, column⟩ := c
    obtain rfl : left = b :: rest := here.trans ahead
    show Cursor.skipBlanks (b :: rest) line column = _
    rw [Cursor.skipBlanks, solid]
    rfl
  rw [peekSolid_bind, stays, here, ahead]
  exact reads c here

theorem closedBy {close : Reader Unit} {result : Option α} {closing : List UInt8}
    (closes : Reads close closing (some ()) behind)
    (body : Reads p text result (closing ++ behind)) :
    Reads (closedBy close p) (text ++ closing) result behind := by
  intro c here
  rw [List.append_assoc] at here
  have read := body c here
  unfold Json.closedBy
  cases one : p c with
  | ok v d =>
      rw [one] at read
      obtain ⟨w, rfl, same⟩ := Option.map_eq_some_iff.mp read.symm
      obtain ⟨rfl, left⟩ := Prod.mk.inj same
      obtain ⟨e, closed, gone⟩ := remaining_eq_some.mp (closes d left.symm)
      simp [closed, gone, remaining]
  | error failure d =>
      rw [one] at read
      obtain rfl : result = none := by simpa [remaining] using read.symm
      simp only
      split <;> rfl

end Reads

theorem skip_reads {b : UInt8} : Reads skip [b] (some ()) behind := by
  intro c here
  have left : c.advance.rest = behind := by
    rw [Cursor.advance_rest, here, List.singleton_append, List.tail_cons]
  exact congrArg (fun rest => some ((), rest)) left

theorem closeList_reads : Reads closeList [byteOf ']'] (some ()) behind :=
  .look rfl rfl skip_reads

theorem closeObject_reads : Reads closeObject [byteOf '\x7d'] (some ()) behind :=
  .look rfl rfl skip_reads

theorem colon_reads : Reads colon [byteOf ':'] (some ()) behind :=
  .look rfl rfl skip_reads

theorem inList_reads {body : Nat → Reader α} {result : Option α} (inner : Nat)
    (reads : Reads (body inner) text result (byteOf ']' :: behind)) :
    Reads (inList (inner + 1) body) (byteOf '[' :: (text ++ [byteOf ']'])) result behind :=
  .skip (Reads.closedBy closeList_reads reads).placed

theorem inObject_reads {body : Nat → Reader α} {result : Option α} (inner : Nat)
    (reads : Reads (body inner) text result (byteOf '\x7d' :: behind)) :
    Reads (inObject (inner + 1) body) (byteOf '\x7b' :: (text ++ [byteOf '\x7d'])) result behind :=
  .skip (Reads.closedBy closeObject_reads reads).placed

section Numbers

variable (delimits : Delimits behind)

include delimits

theorem Extends.peekSolid {f : Option Char → Reader β}
    (each : ∀ ch, Extends behind (LongerAhead behind) (f (some ch))) (atEnd : Never (f none)) :
    Extends behind (Longer behind) (Json.peekSolid >>= f) := by
  intro c c' v d related read
  refine (Extends.peek delimits each (.inl atEnd)) c.solid c'.solid v d ?_ read
  obtain ⟨b, rest, rfl, delimiter⟩ := delimits
  have solid : isBlank b = false := by
    have other : ∀ ch, ch = ',' ∨ ch = ']' → [' ', '\n', '\t', '\r'].contains ch = false := by
      rintro ch (rfl | rfl) <;> rfl
    exact other (charOf b) delimiter
  rw [Longer, Cursor.solid_rest, Cursor.solid_rest, related, List.dropWhile_append]
  split
  next blank =>
    have none : c.rest.dropWhile isBlank = [] := List.isEmpty_iff.mp blank
    rw [none, List.dropWhile_cons_of_neg (by simp [solid]), List.nil_append]
  next => rfl

theorem numberAs_extends (expected : String) (convert : Number → Except Fault α) :
    Extends behind (Longer behind) (numberAs expected convert) := by
  unfold numberAs
  rw [valueStart_bind]
  refine .peekSolid delimits ?_ (failNext_never _)
  intro ch
  dsimp only
  split
  next =>
    have converted (n : Number) : Extends behind (Longer behind) (ofExcept (convert n)) := by
      cases convert n with
      | ok v => exact .pure v
      | error fault => exact (reject_never fault).extends
    intro c c' v d related read
    obtain ⟨d', read', longer⟩ := ((number_extends delimits).bind converted) c c' v d related.1
      (placed_ok.mp read)
    exact ⟨d', placed_ok.mpr read', longer⟩
  next => exact (mistyped_never _).extends

/-- A number that is read alone, without blanks, is read in front of a delimiter as well. -/
theorem single_reads {x : Single} (alone : readText (fun _ => single) text = .ok x)
    (solid : ∀ b ∈ text, isBlank b = false) : Reads single text (some x) behind := by
  obtain ⟨d, read, blank⟩ := readText_ok.mp alone
  have taken : d.rest <:+ text := (single_keeps : Keeps [] single).shrinks _ _ _ read
  have done : d.rest = [] := by
    refine List.eq_nil_iff_forall_not_mem.mpr fun b member => ?_
    have other := solids_eq_nil.mp blank b member
    rw [solid b (taken.subset member)] at other
    cases other
  intro c here
  obtain ⟨e, again, longer⟩ :=
    numberAs_extends delimits "f32" (fun n => .ok n.toSingle) (Cursor.start text) c x d here read
  refine remaining_eq_some.mpr ⟨e, again, ?_⟩
  rw [longer, done, List.nil_append]

end Numbers

theorem number_head {x : Single} (alone : readText (fun _ => single) text = .ok x)
    (solid : ∀ b ∈ text, isBlank b = false) :
    ∃ b rest, text = b :: rest ∧ (charOf b = '-' ∨ (charOf b).isDigit = true) := by
  obtain ⟨d, read, -⟩ := readText_ok.mp alone
  cases text with
  | nil => cases read
  | cons b rest =>
      refine ⟨b, rest, rfl, ?_⟩
      by_contra other
      have first : isBlank b = false := solid b List.mem_cons_self
      have fails : Reads single (b :: rest) none [] := by
        unfold single numberAs
        rw [valueStart_bind]
        refine .look (List.append_nil _) first ?_
        dsimp only
        rw [if_neg other]
        exact (mistyped_never _).reads
      have gone := fails (Cursor.start (b :: rest)) (List.append_nil _).symm
      rw [read] at gone
      cases gone

theorem null_reads : Reads single (bytesOf "null") none behind := by
  have bytes : bytesOf "null" = "null".toList.map byteOf := bytesOf_ascii (by simp)
  unfold single numberAs
  rw [valueStart_bind, bytes]
  exact .look rfl rfl (mistyped_never "f32").reads

theorem isDigit_ascii {ch : Char} (digit : ch.isDigit = true) : ch.toNat < 128 := by
  have last : ch.val ≤ '9'.val := by
    rw [Char.isDigit, Bool.and_eq_true] at digit
    exact of_decide_eq_true digit.2
  exact Nat.lt_of_le_of_lt (UInt32.le_iff_toNat_le.mp last) (by decide)

theorem isDigit_solid {ch : Char} (digit : ch.isDigit = true) :
    [' ', '\n', '\t', '\r'].contains ch = false := by
  refine Bool.eq_false_iff.mpr fun blank => ?_
  have none : ∀ blank ∈ [' ', '\n', '\t', '\r'], blank.isDigit = false := by simp
  rw [none ch (List.contains_iff_mem.mp blank)] at digit
  cases digit

theorem digitOf?_byteOf {ch : Char} (digit : ch.isDigit = true) :
    digitOf? (byteOf ch) = some (ch.toNat - '0'.toNat) := by
  rw [digitOf?, charOf_byteOf (isDigit_ascii digit)]
  exact if_pos digit

theorem bytesOf_natural (n : Nat) : bytesOf (toString n) = (Nat.toDigits 10 n).map byteOf := by
  have digits : (toString n).toList = Nat.toDigits 10 n := Nat.toList_repr
  rw [← digits]
  refine bytesOf_ascii fun ch member => isDigit_ascii ?_
  exact Nat.isDigit_of_mem_toDigits (by decide) (by decide) (digits ▸ member)

theorem le_ofDigitChars (digits : List Char) (start : Nat) :
    start ≤ Nat.ofDigitChars 10 digits start := by
  have one : 0 < 10 ^ digits.length := Nat.pow_pos (by decide)
  rw [Nat.ofDigitChars_eq_ofDigitChars_zero]
  exact Nat.le_trans (Nat.le_mul_of_pos_left start one) (Nat.le_add_right _ _)

/-- Digits are appended while the number stays below the bound. -/
theorem appendDigits_digits {digits : List Char} (digit : ∀ ch ∈ digits, ch.isDigit = true)
    {bound start : Nat} (count : Nat) (small : Nat.ofDigitChars 10 digits start < bound)
    (delimits : Delimits behind) :
    appendDigits bound start count (digits.map byteOf ++ behind) =
      (Nat.ofDigitChars 10 digits start, count + digits.length, behind) := by
  induction digits generalizing start count with
  | nil =>
      obtain ⟨b, rest, rfl, stops⟩ := delimits.no_digit
      have stop : appendDigits bound start count (b :: rest) = (start, count, b :: rest) := by
        rw [appendDigits, stops]
        rfl
      exact stop
  | cons ch digits ih =>
      obtain ⟨own, others⟩ := List.forall_mem_cons.mp digit
      rw [Nat.ofDigitChars_cons] at small ⊢
      have below : 10 * start + (ch.toNat - '0'.toNat) < bound :=
        Nat.lt_of_le_of_lt (le_ofDigitChars digits _) small
      have taken : (digitOf? (byteOf ch)).bind (appendDigit? bound start) =
          some (10 * start + (ch.toNat - '0'.toNat)) := by
        rw [digitOf?_byteOf own]
        exact if_pos below
      rw [List.map_cons, List.cons_append, appendDigits, taken]
      refine (ih others (count + 1) small).trans ?_
      rw [List.length_cons, Nat.add_assoc, Nat.add_comm 1]

theorem toDigits_head {n : Nat} (positive : 0 < n) :
    ∃ ch rest, Nat.toDigits 10 n = ch :: rest ∧ ch ≠ '0' := by
  induction n using Nat.base_induction 10 (by decide) with
  | single m small =>
      refine ⟨m.digitChar, [], Nat.toDigits_of_lt_base small, ?_⟩
      have others : ∀ k < 10, 0 < k → k.digitChar ≠ '0' := by decide
      exact others m small positive
  | digit m k small some ih =>
      obtain ⟨ch, rest, head, other⟩ := ih some
      refine ⟨ch, rest ++ Nat.toDigits 10 k, ?_, other⟩
      rw [← Nat.toDigits_append_toDigits (by decide) some small, head, List.cons_append]

section Natural

variable (delimits : Delimits behind)

include delimits

theorem countDigits_none : Reads countDigits [] (some 0) behind := by
  obtain ⟨b, rest, rfl, stops⟩ := delimits.no_digit
  rintro ⟨left, line, column⟩ here
  obtain rfl : left = b :: rest := here
  have none : (b :: rest).takeWhile (fun b => (digitOf? b).isSome) = [] := by
    simp [stops]
  show remaining (.ok _ _) = _
  simp [remaining, none]

theorem wholeOrFraction_natural (n : Nat) :
    Reads (wholeOrFraction false n) [] (some (.natural n)) behind := by
  have ends : ∀ ch, ch = ',' ∨ ch = ']' → endsWhole (some ch) = true := by
    rintro ch (rfl | rfl) <;> rfl
  obtain ⟨b, rest, here, delimiter⟩ := delimits
  refine Reads.bind_last (countDigits_none ⟨b, rest, here, delimiter⟩) (.peek here ?_)
  rw [if_pos ⟨rfl, ends (charOf b) delimiter⟩]
  exact .pure _

theorem takeDigits_natural {n : Nat} (small : n < significandBound) :
    Reads (takeDigits significandBound 0) ((Nat.toDigits 10 n).map byteOf)
      (some (n, (Nat.toDigits 10 n).length)) behind := by
  have value : Nat.ofDigitChars 10 (Nat.toDigits 10 n) 0 = n := Nat.ofDigitChars_ten_toDigits
  have taken := appendDigits_digits (fun ch => Nat.isDigit_of_mem_toDigits (by decide) (by decide))
    0 (value.symm ▸ small) delimits
  rintro ⟨left, line, column⟩ here
  obtain rfl : left = (Nat.toDigits 10 n).map byteOf ++ behind := here
  rw [value, Nat.zero_add] at taken
  show remaining (.ok _ _) = _
  rw [taken]
  rfl

theorem unsignedNumber_zero : Reads (unsignedNumber false) [byteOf '0'] (some (.natural 0))
    behind := by
  have rest := wholeOrFraction_natural delimits 0
  obtain ⟨b, more, here, delimiter⟩ := delimits
  have other : (charOf b).isDigit = false := by
    have none : ∀ ch, ch = ',' ∨ ch = ']' → ch.isDigit = false := by
      rintro ch (rfl | rfl) <;> rfl
    exact none (charOf b) delimiter
  refine .peek rfl (Reads.skip (.peek here ?_))
  dsimp only
  rw [other]
  exact rest

theorem number_natural {n : Nat} (small : n < significandBound) :
    Reads number (bytesOf (toString n)) (some (.natural n)) behind := by
  rw [bytesOf_natural]
  rcases Nat.eq_zero_or_pos n with rfl | positive
  · exact .peek rfl (unsignedNumber_zero delimits)
  obtain ⟨ch, others, head, nonzero⟩ := toDigits_head positive
  have digit : ch.isDigit = true :=
    Nat.isDigit_of_mem_toDigits (by decide) (by decide) (head ▸ List.mem_cons_self)
  have first : charOf (byteOf ch) = ch := charOf_byteOf (isDigit_ascii digit)
  have ahead : (Nat.toDigits 10 n).map byteOf ++ behind =
      byteOf ch :: (others.map byteOf ++ behind) := by
    rw [head]
    rfl
  refine .peek ahead ?_
  rw [first]
  split
  next minus =>
    rw [Option.some.inj minus] at digit
    cases digit
  next =>
    refine .peek ahead ?_
    rw [first]
    dsimp only
    rw [if_pos digit, if_neg nonzero]
    exact (takeDigits_natural delimits small).map.bind_last (wholeOrFraction_natural delimits n)

theorem numberAs_reads {n : Nat} (small : n < significandBound) (expected : String)
    {convert : Number → Except Fault α} {v : α} (converts : convert (.natural n) = .ok v) :
    Reads (numberAs expected convert) (bytesOf (toString n)) (some v) behind := by
  obtain ⟨ch, rest, head⟩ := List.exists_cons_of_ne_nil (Nat.toDigits_ne_nil (n := n) (b := 10))
  have digit : ch.isDigit = true :=
    Nat.isDigit_of_mem_toDigits (by decide) (by decide) (head ▸ List.mem_cons_self)
  have first : charOf (byteOf ch) = ch := charOf_byteOf (isDigit_ascii digit)
  have solid : isBlank (byteOf ch) = false := by
    rw [isBlank, first]
    exact isDigit_solid digit
  have ahead : bytesOf (toString n) ++ behind = byteOf ch :: (rest.map byteOf ++ behind) := by
    rw [bytesOf_natural, head]
    rfl
  have converted : Reads (ofExcept (convert (.natural n))) [] (some v) behind := by
    rw [converts]
    exact .pure v
  unfold numberAs
  rw [valueStart_bind]
  refine .look ahead solid ?_
  rw [first]
  dsimp only
  rw [if_pos (.inr digit)]
  exact ((number_natural delimits small).bind_last converted).placed

theorem natural32_reads (n : UInt32) :
    Reads natural32 (bytesOf (toString n.toNat)) (some n) behind := by
  refine numberAs_reads delimits (Nat.lt_trans n.toNat_lt (by decide)) "u32" ?_
  dsimp only
  rw [if_pos n.toNat_lt, UInt32.ofNat_toNat]

end Natural

/-- What is written for an element: read back if the element is good, and refused otherwise. -/
structure Writes (element : Reader α) (write : α → List UInt8) (good : α → Bool) (x : α) :
    Prop where
  head : ∃ b rest, write x = b :: rest ∧ isBlank b = false ∧ charOf b ≠ ']'
  reads : ∀ behind, Delimits behind → Reads element (write x) (Option.guard good x) behind

def separator (first : Bool) : List UInt8 := if first then [] else [byteOf ',']

def listed (write : α → List UInt8) : Bool → List α → List UInt8
  | _, [] => []
  | first, x :: xs => separator first ++ (write x ++ listed write false xs)

theorem nextElement_more (first : Bool) {b : UInt8} {rest : List UInt8} (ahead : behind = b :: rest)
    (solid : isBlank b = false) (within : charOf b ≠ ']') :
    Reads (nextElement first) (separator first) (some true) behind := by
  cases first with
  | true =>
      refine .look ahead solid ?_
      split
      next none => cases none
      next close => exact absurd (Option.some.inj close) within
      next => exact .pure true
  | false =>
      refine .look rfl rfl (Reads.skip (.look ahead solid ?_))
      split
      next close => exact absurd (Option.some.inj close) within
      next => exact .pure true
      next none => cases none

theorem nextElement_done (first : Bool) :
    Reads (nextElement first) [] (some false) (byteOf ']' :: behind) :=
  .look rfl rfl (.pure false)

section Elements

variable {element : Reader α} {write : α → List UInt8} {good : α → Bool} {xs : List α}
  (writes : ∀ x ∈ xs, Writes element write good x)

theorem listed_delimits (xs : List α) (behind : List UInt8) :
    Delimits (listed write false xs ++ byteOf ']' :: behind) := by
  cases xs with
  | nil => exact ⟨_, _, rfl, .inr rfl⟩
  | cons x xs => exact ⟨_, _, rfl, .inl rfl⟩

theorem guard_cons (x : α) (xs : List α) : Option.guard (·.all good) (x :: xs) =
    (Option.guard good x).bind fun x => (Option.guard (·.all good) xs).map (x :: ·) := by
  by_cases own : good x = true <;> by_cases others : xs.all good = true <;>
    simp [Option.guard, own, others]

/-- The steps that readers of lists have in common: an element and the other ones behind it. -/
theorem element_reads {x : α} {others : Reader (List α)} {result : Option (List α)}
    (own : Writes element write good x) (delimits : Delimits (more ++ behind))
    (reads : Reads others more result behind) :
    Reads (element >>= fun a => others >>= fun as => pure (a :: as)) (write x ++ more)
      ((Option.guard good x).bind fun a => result.map (a :: ·)) behind := by
  have first := own.reads (more ++ behind) delimits
  have joined (a : α) : Reads (others >>= fun as => pure (a :: as)) more (result.map (a :: ·))
      behind := by
    rw [← map_eq_pure_bind]
    exact reads.map
  cases kept : Option.guard good x with
  | some a => exact (kept ▸ first).bind (joined a)
  | none =>
      intro c here
      exact (kept ▸ first).bind_none c (here.trans (List.append_assoc ..))

include writes

theorem elementsFrom_reads (first : Bool) {count : Nat} (enough : xs.length < count) :
    Reads (elementsFrom element count first) (listed write first xs)
      (Option.guard (·.all good) xs) (byteOf ']' :: behind) := by
  induction xs generalizing first count with
  | nil =>
      obtain ⟨count, rfl⟩ := Nat.exists_eq_succ_of_ne_zero (Nat.ne_of_gt enough)
      exact Reads.bind_last (nextElement_done first) (.pure [])
  | cons x xs ih =>
      obtain ⟨count, rfl⟩ := Nat.exists_eq_succ_of_ne_zero (Nat.ne_zero_of_lt enough)
      have ⟨own, others⟩ := List.forall_mem_cons.mp writes
      obtain ⟨b, rest, head, solid, within⟩ := own.head
      have ahead : (write x ++ listed write false xs) ++ byteOf ']' :: behind =
          b :: (rest ++ (listed write false xs ++ byteOf ']' :: behind)) := by
        rw [head, List.append_assoc, List.cons_append]
      refine (nextElement_more first ahead solid within).bind ?_
      rw [guard_cons]
      exact element_reads own (listed_delimits xs behind)
        (ih others false (Nat.lt_of_succ_lt_succ enough))

theorem exactElements_reads (expected : String) (index : Nat) :
    Reads (exactElements expected element index xs.length) (listed write (index == 0) xs)
      (Option.guard (·.all good) xs) (byteOf ']' :: behind) := by
  induction xs generalizing index with
  | nil => exact .pure []
  | cons x xs ih =>
      have ⟨own, others⟩ := List.forall_mem_cons.mp writes
      obtain ⟨b, rest, head, solid, within⟩ := own.head
      have ahead : (write x ++ listed write false xs) ++ byteOf ']' :: behind =
          b :: (rest ++ (listed write false xs ++ byteOf ']' :: behind)) := by
        rw [head, List.append_assoc, List.cons_append]
      refine (nextElement_more (index == 0) ahead solid within).bind ?_
      rw [guard_cons]
      exact element_reads own (listed_delimits xs behind) (ih others (index + 1))

theorem length_le_listed (first : Bool) : xs.length ≤ (listed write first xs).length := by
  induction xs generalizing first with
  | nil => exact Nat.zero_le _
  | cons x xs ih =>
      have ⟨own, others⟩ := List.forall_mem_cons.mp writes
      obtain ⟨b, rest, head, -⟩ := own.head
      have fewer := ih others false
      rw [listed, head, List.length_append, List.length_append, List.length_cons, List.length_cons]
      omega

theorem list_reads (inner : Nat) :
    Reads (list (inner + 1) fun _ => element) (byteOf '[' :: (listed write true xs ++ [byteOf ']']))
      (Option.guard (·.all good) xs) behind := by
  have inside : Reads (elements element) (listed write true xs) (Option.guard (·.all good) xs)
      (byteOf ']' :: behind) := by
    intro c here
    have enough : xs.length < c.rest.length + 1 := by
      have fewer := length_le_listed writes true
      rw [here, List.length_append]
      omega
    exact elementsFrom_reads writes true enough c here
  have opened : Reads (inList (inner + 1) fun _ => elements element) _ _ behind :=
    inList_reads inner inside
  unfold list
  rw [valueStart_bind]
  exact .look rfl rfl opened

theorem tuple_reads (inner : Nat) (expected : String) :
    Reads (tuple (inner + 1) expected xs.length fun _ => element)
      (byteOf '[' :: (listed write true xs ++ [byteOf ']'])) (Option.guard (·.all good) xs)
      behind := by
  have opened : Reads (inList (inner + 1) fun _ => exactElements expected element 0 xs.length) _ _
      behind := inList_reads inner (exactElements_reads writes expected 0)
  unfold tuple
  rw [valueStart_bind]
  exact .look rfl rfl opened

end Elements

def Quotable (text : String) : Prop :=
  (text.toList.all fun c => c.toNat < 128 && 32 ≤ c.toNat && c != '"' && c != '\\') = true

def quoted (text : String) : List UInt8 := byteOf '"' :: (bytesOf text ++ [byteOf '"'])

theorem stringBytes_reads {chars : List Char} {count : Nat} (enough : chars.length < count)
    (plain : ∀ c ∈ chars, c.toNat < 128 ∧ 32 ≤ c.toNat ∧ c ≠ '"' ∧ c ≠ '\\') :
    Reads (stringBytes count) (chars.map byteOf ++ [byteOf '"']) (some (chars.map byteOf))
      behind := by
  induction chars generalizing count with
  | nil =>
      obtain ⟨count, rfl⟩ := Nat.exists_eq_succ_of_ne_zero (Nat.ne_zero_of_lt enough)
      intro c here
      rw [stringBytes_succ count here]
      exact Reads.skip (.pure []) c here
  | cons ch chars ih =>
      obtain ⟨count, rfl⟩ := Nat.exists_eq_succ_of_ne_zero (Nat.ne_zero_of_lt enough)
      have ⟨⟨ascii, printed, quote, backslash⟩, others⟩ := List.forall_mem_cons.mp plain
      have rest : Reads (stringBytes count) (chars.map byteOf ++ [byteOf '"'])
          (some (chars.map byteOf)) behind := ih (Nat.lt_of_succ_lt_succ enough) others
      have byte : ch.toNat < 2 ^ 8 := Nat.lt_trans ascii (by decide)
      have large : ¬ byteOf ch < 0x20 := by
        rw [UInt8.lt_iff_toNat_lt, byteOf, UInt8.toNat_ofNat_of_lt' byte]
        exact Nat.not_lt_of_le printed
      intro c here
      rw [stringBytes_succ count here]
      refine Reads.skip ?_ c here
      rw [charOf_byteOf ascii, if_neg quote, if_neg backslash, if_neg large, ← map_eq_pure_bind]
      exact rest.map

theorem stringRest_reads {text : String} (quotable : Quotable text) :
    Reads stringRest (bytesOf text ++ [byteOf '"']) (some text) behind := by
  have plain : ∀ c ∈ text.toList, c.toNat < 128 ∧ 32 ≤ c.toNat ∧ c ≠ '"' ∧ c ≠ '\\' := by
    intro c member
    simpa [and_assoc] using List.all_eq_true.mp quotable c member
  have bytes : bytesOf text = text.toList.map byteOf := bytesOf_ascii fun c member =>
    (plain c member).1
  intro c here
  have enough : text.toList.length < c.rest.length + 1 := by
    rw [here, bytes]
    simp only [List.length_append, List.length_map]
    omega
  have taken : Reads (stringBytes (c.rest.length + 1)) (text.toList.map byteOf ++ [byteOf '"'])
      (some (text.toList.map byteOf)) behind := stringBytes_reads enough plain
  have read := taken.map (f := fun bytes => (String.fromUTF8? ⟨bytes.toArray⟩).getD "") c
    (bytes ▸ here)
  rw [← bytes, Option.map_some, fromUTF8?_bytesOf, map_eq_pure_bind] at read
  exact read

theorem nextKey_more (first : Bool) {key : String} (plain : Quotable key) :
    Reads (nextKey first) (separator first ++ quoted key) (some (some key)) behind := by
  have own : Reads (keyFrom '"') (quoted key) (some (some key)) behind :=
    .skip (stringRest_reads plain).map
  rw [nextKey_eq]
  cases first with
  | true => exact .look rfl rfl own
  | false =>
      have opened : Reads keyBehindComma (quoted key) (some (some key)) behind := .look rfl rfl own
      exact .look rfl rfl (.skip opened)

theorem nextKey_done (first : Bool) :
    Reads (nextKey first) [] (some none) (byteOf '\x7d' :: behind) := by
  rw [nextKey_eq]
  exact .look rfl rfl (.pure none)

section Members

variable {member : σ → String → Reader σ} {gathered next : σ}

theorem membersFrom_done (first : Bool) (count : Nat) :
    Reads (membersFrom member (count + 1) first gathered) [] (some gathered)
      (byteOf '\x7d' :: behind) :=
  Reads.bind_last (nextKey_done first) (.pure gathered)

theorem membersFrom_more (first : Bool) {count : Nat} {key : String} (plain : Quotable key)
    {result : Option σ} (own : Reads (member gathered key) text (some next) (more ++ behind))
    (others : Reads (membersFrom member count false next) more result behind) :
    Reads (membersFrom member (count + 1) first gathered)
      (separator first ++ quoted key ++ (text ++ more)) result behind :=
  (nextKey_more first plain).bind (own.bind others)

theorem membersFrom_none (first : Bool) {count : Nat} {key : String} (plain : Quotable key)
    (own : Reads (member gathered key) text none behind) :
    Reads (membersFrom member (count + 1) first gathered) (separator first ++ quoted key ++ text)
      none behind :=
  (nextKey_more first plain).bind own.bind_none

/-- The value of a field that has not been read before. -/
theorem member_reads {record : Record σ α} {draft : σ} {key : String} {field : Field σ}
    {result : Option σ} (found : record.fields.find? (·.name == key) = some field)
    (fresh : field.isSet draft = false) (reads : Reads (field.read draft) text result behind) :
    Reads (record.member draft key) (byteOf ':' :: text) result behind := by
  have stepped : record.member draft key = colon >>= fun _ => field.read draft := by
    simp [Record.member, found, fresh]
  rw [stepped]
  exact colon_reads.bind reads

end Members

end RayScene.Json
