namespace RayScene.CommandLine

abbrev Letter := Char × Bool

/-- Gives a letter the first free partner from `start` up to, but not including, `stop`. -/
def pairLetter? (c : Char) (start stop : Nat) : Nat → List Letter → Option (List Letter)
  | _, [] => none
  | index, (d, taken) :: rest =>
    if start ≤ index ∧ index < stop ∧ c = d ∧ !taken then some ((d, true) :: rest)
    else (pairLetter? c start stop (index + 1) rest).map ((d, taken) :: ·)

/-- The letters of the first word that have a partner, and the second word with its marks. -/
def pairLetters (reach : Nat) : Nat → List Char → List Letter → List Char × List Letter
  | _, [], word => ([], word)
  | index, c :: rest, word =>
    match pairLetter? c (index - reach) (index + reach + 1) 0 word with
    | none => pairLetters reach (index + 1) rest word
    | some word =>
      let (paired, word) := pairLetters reach (index + 1) rest word
      (c :: paired, word)

def similarity (a b : String) : Nat × Nat :=
  let m := a.length
  let n := b.length
  let (paired, word) := pairLetters (max m n / 2 - 1) 0 a.toList (b.toList.map (·, false))
  let partners := (word.filter (·.2)).map (·.1)
  let count := paired.length
  let swapped := ((paired.zip partners).countP fun (c, d) => c ≠ d) / 2
  if count = 0 then (if m = 0 ∧ n = 0 then 1 else 0, 1)
  else (count * count * n + count * count * m + (count - swapped) * m * n, 3 * count * m * n)

def isSimilar (s : Nat × Nat) : Bool := 7 * s.2 < 10 * s.1

def mostSimilar? {α : Type} (word : String) (candidates : List (String × α)) : Option α :=
  let ranked := candidates.map fun (name, a) => (similarity word name, a)
  let best := (ranked.filter (isSimilar ·.1)).foldl (fun best next =>
    match best with
    | none => some next
    | some (s, _) => if next.1.1 * s.2 < s.1 * next.1.2 then best else some next) none
  best.map (·.2)

end RayScene.CommandLine
