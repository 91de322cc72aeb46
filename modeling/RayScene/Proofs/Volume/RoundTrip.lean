import RayScene.Proofs.Json.Written
import RayScene.Proofs.Number.Literal
import RayScene.Proofs.Outcome
import RayScene.Proofs.Volume.Cancellation
import RayScene.Proofs.Volume.Centers
import RayScene.SceneFile.Compile
import RayScene.Volume.File

/-!
Reading the files of exported volumes. A number that is not finite is written as a word that no
number is read from, so a file is read back if and only if all distances in it are finite.
-/

namespace RayScene

open Json
open Cursor (charOf isBlank)

def isSolid (c : Char) : Bool := c.toNat < 128 && !List.contains [' ', '\n', '\t', '\r'] c

def IsSolid (text : String) : Prop := text.toList.all isSolid = true

namespace IsSolid

theorem append {first second : String} (left : IsSolid first) (right : IsSolid second) :
    IsSolid (first ++ second) := by
  rw [IsSolid, String.toList_append, List.all_append, left, right]
  rfl

theorem of_isDigit {text : String} (digit : ∀ c ∈ text.toList, c.isDigit = true) :
    IsSolid text := by
  refine List.all_eq_true.mpr fun c member => ?_
  rw [isSolid, isDigit_solid (digit c member), decide_eq_true (isDigit_ascii (digit c member))]
  rfl

theorem ofList {text : String} (solid : IsSolid text) {chars : List Char}
    (part : chars ⊆ text.toList) : IsSolid (String.ofList chars) := by
  refine List.all_eq_true.mpr fun c member => List.all_eq_true.mp solid c (part ?_)
  rwa [String.toList_ofList] at member

theorem bytes {text : String} (solid : IsSolid text) : ∀ b ∈ bytesOf text, isBlank b = false := by
  have each : ∀ c ∈ text.toList, c.toNat < 128 ∧ [' ', '\n', '\t', '\r'].contains c = false := by
    intro c member
    simpa [isSolid] using List.all_eq_true.mp solid c member
  intro b member
  rw [bytesOf_ascii fun c member => (each c member).1] at member
  obtain ⟨c, inside, rfl⟩ := List.mem_map.mp member
  rw [isBlank, charOf_byteOf (each c inside).1]
  exact (each c inside).2

end IsSolid

namespace NumberStyle

theorem zeros_solid (count : Nat) : IsSolid (zeros count) := by
  refine .of_isDigit ?_
  rw [toList_zeros]
  exact isDigit_replicate count

theorem natural_solid (n : Nat) : IsSolid (toString n) := by
  refine .of_isDigit fun c member => ?_
  have digits : (toString n).toList = Nat.toDigits 10 n := Nat.toList_repr
  exact Nat.isDigit_of_mem_toDigits (by decide) (by decide) (digits ▸ member)

theorem integer_solid : ∀ n : Int, IsSolid (toString n)
  | .ofNat n => natural_solid n
  | .negSucc n => IsSolid.append (by simp [IsSolid, isSolid] : IsSolid "-") (natural_solid (n + 1))

variable {digits : String} (solid : IsSolid digits)

include solid

theorem positional_solid (wholePoint : Bool) (place : Int) :
    IsSolid (positional wholePoint digits place) := by
  have point : IsSolid "." := by simp [IsSolid, isSolid]
  have pointZero : IsSolid ".0" := by simp [IsSolid, isSolid]
  have zeroPoint : IsSolid "0." := by simp [IsSolid, isSolid]
  have none : IsSolid "" := by simp [IsSolid]
  unfold positional
  split
  next => exact (solid.append (zeros_solid _)).append (by split <;> assumption)
  next =>
    dsimp only
    split
    next => exact (zeroPoint.append (zeros_solid _)).append solid
    next =>
      exact ((solid.ofList (List.take_subset _ _)).append point).append
        (solid.ofList (List.drop_subset _ _))

theorem scientific_solid (exponentPlus : Bool) (power : Int) :
    IsSolid (scientific exponentPlus digits power) := by
  have mark : IsSolid "e" := by simp [IsSolid, isSolid]
  have plus : IsSolid "+" := by simp [IsSolid, isSolid]
  have none : IsSolid "" := by simp [IsSolid]
  refine ((IsSolid.append ?_ mark).append (by split <;> assumption)).append (integer_solid power)
  split
  next first second rest split =>
    have parts := solid
    rw [IsSolid, split, List.all_cons, Bool.and_eq_true] at parts
    rw [IsSolid, String.toList_ofList, List.all_cons, List.all_cons, parts.1, parts.2]
    decide
  next => exact solid

omit solid in
theorem magnitude_solid (style : NumberStyle) (digits : Nat) (place : Int) :
    IsSolid (style.magnitude digits place) := by
  have solid := natural_solid digits
  unfold magnitude
  dsimp only
  split
  next => exact positional_solid solid _ _
  next =>
    split
    next => exact positional_solid solid _ _
    next => exact scientific_solid solid _ _

end NumberStyle

theorem Single.write_solid (style : NumberStyle) (x : Single) : IsSolid (x.write style) := by
  have minus : IsSolid "-" := by simp [IsSolid, isSolid]
  have none : IsSolid "" := by simp [IsSolid]
  unfold Single.write NumberStyle.write
  split
  next => simp [IsSolid, isSolid]
  next => unfold IsSolid; split <;> decide
  next negative significand exponent _ =>
    exact IsSolid.append (by split <;> assumption) (style.magnitude_solid _ _)

theorem Volume.writeNumber_solid (x : Single) : IsSolid (writeNumber x) := by
  unfold writeNumber
  split
  next => exact Single.write_solid _ x
  next => simp [IsSolid, isSolid]

namespace Volume

def numberBytes (x : Single) : List UInt8 := bytesOf (writeNumber x)

def ReadsBack (x : Single) : Prop :=
  Scalar.isFinite x = true → readText (fun _ => single) (writeNumber x).toUTF8.toList = .ok x

theorem writes_number {x : Single} (readsBack : ReadsBack x) :
    Writes single numberBytes Scalar.isFinite x := by
  have solid : ∀ b ∈ numberBytes x, isBlank b = false := (writeNumber_solid x).bytes
  cases finite : Scalar.isFinite x with
  | true =>
      have alone : readText (fun _ => single) (numberBytes x) = .ok x := readsBack finite
      refine ⟨?_, fun behind delimits => ?_⟩
      · obtain ⟨b, rest, head, starts⟩ := number_head alone solid
        refine ⟨b, rest, head, solid b (head ▸ List.mem_cons_self), ?_⟩
        rintro bracket
        rw [bracket] at starts
        revert starts
        decide
      · rw [Option.guard, if_pos finite]
        exact single_reads delimits alone solid
  | false =>
      have null : numberBytes x = bytesOf "null" := by
        rw [numberBytes, writeNumber, if_neg (by simp [finite])]
      have bytes : bytesOf "null" = "null".toList.map byteOf := bytesOf_ascii (by simp)
      refine ⟨?_, fun behind delimits => ?_⟩
      · rw [null, bytes]
        exact ⟨_, _, rfl, by decide, by decide⟩
      · rw [Option.guard, if_neg (by simp [finite]), null]
        exact null_reads

theorem listed_numbers (x : Single) (xs : List Single) :
    bytesOf (",".intercalate ((x :: xs).map writeNumber)) =
      numberBytes x ++ listed numberBytes false xs := by
  have comma : bytesOf "," = [byteOf ','] := bytesOf_ascii (by simp)
  induction xs generalizing x with
  | nil =>
    rw [listed, List.append_nil]
    rfl
  | cons next xs ih =>
      rw [List.map_cons, List.map_cons, String.intercalate_cons_cons, bytesOf_append,
        bytesOf_append, comma, ← List.map_cons, ih next]
      simp [listed, separator, numberBytes]

def numbersBytes (xs : List Single) : List UInt8 :=
  byteOf '[' :: (listed numberBytes true xs ++ [byteOf ']'])

theorem bytesOf_writeNumbers (xs : List Single) : bytesOf (writeNumbers xs) = numbersBytes xs := by
  have opening : bytesOf "[" = [byteOf '['] := bytesOf_ascii (by simp)
  have closing : bytesOf "]" = [byteOf ']'] := bytesOf_ascii (by simp)
  have inside : bytesOf (",".intercalate (xs.map writeNumber)) = listed numberBytes true xs := by
    cases xs with
    | nil => exact bytesOf_ascii (by simp)
    | cons x xs =>
        rw [listed_numbers]
        rfl
  rw [writeNumbers, bytesOf_append, bytesOf_append, opening, closing, inside]
  rfl

theorem vector_reads {v : Vec3 Single} {behind : List UInt8} (inner : Nat)
    (finite : v.toList.all Scalar.isFinite = true) (readsBack : ∀ x ∈ v.toList, ReadsBack x) :
    Reads (vector (inner + 1)) (numbersBytes v.toList) (some v) behind := by
  have components : Reads (tuple (inner + 1) vectorType 3 fun _ => single) (numbersBytes v.toList)
      (Option.guard (·.all Scalar.isFinite) v.toList) behind :=
    tuple_reads (fun x member => writes_number (readsBack x member)) inner vectorType
  rw [Option.guard, if_pos finite] at components
  unfold vector
  exact Reads.bind_last components (Reads.pure v)

def memberBytes (first : Bool) (key : String) (value : List UInt8) : List UInt8 :=
  separator first ++ quoted key ++ byteOf ':' :: value

def membersBytes (volume : Volume Single) : List UInt8 :=
  memberBytes true "resolution" (bytesOf (toString volume.resolution.toNat)) ++
    (memberBytes false "minCoords" (numbersBytes volume.minCoords.toList) ++
      (memberBytes false "maxCoords" (numbersBytes volume.maxCoords.toList) ++
        memberBytes false "values" (numbersBytes volume.values)))

theorem bytesOf_all {text : String} (ascii : text.toList.all (·.toNat < 128) = true) :
    bytesOf text = text.toList.map byteOf :=
  bytesOf_ascii fun c member => of_decide_eq_true (List.all_eq_true.mp ascii c member)

theorem bytesOf_write (volume : Volume Single) :
    bytesOf volume.write = byteOf '\x7b' :: (membersBytes volume ++ [byteOf '\x7d']) := by
  have resolution : bytesOf "\x7b\"resolution\":" =
      byteOf '\x7b' :: (quoted "resolution" ++ [byteOf ':']) := by
    rw [quoted, bytesOf_all (by simp), bytesOf_all (by simp)]
    rfl
  have minCoords : bytesOf ",\"minCoords\":" =
      separator false ++ quoted "minCoords" ++ [byteOf ':'] := by
    rw [quoted, bytesOf_all (by simp), bytesOf_all (by simp)]
    rfl
  have maxCoords : bytesOf ",\"maxCoords\":" =
      separator false ++ quoted "maxCoords" ++ [byteOf ':'] := by
    rw [quoted, bytesOf_all (by simp), bytesOf_all (by simp)]
    rfl
  have values : bytesOf ",\"values\":" = separator false ++ quoted "values" ++ [byteOf ':'] := by
    rw [quoted, bytesOf_all (by simp), bytesOf_all (by simp)]
    rfl
  have last : bytesOf "\x7d" = [byteOf '\x7d'] := bytesOf_all (by simp)
  have first : separator true = [] := rfl
  -- the texts stand for themselves here, or else they would be taken apart
  have parts (a n b l c m d v e : String) : bytesOf (a ++ n ++ b ++ l ++ c ++ m ++ d ++ v ++ e) =
      bytesOf a ++ (bytesOf n ++ (bytesOf b ++ (bytesOf l ++ (bytesOf c ++ (bytesOf m ++
        (bytesOf d ++ (bytesOf v ++ bytesOf e))))))) := by
    simp only [bytesOf_append, List.append_assoc]
  unfold Volume.write
  rw [parts, resolution, minCoords, maxCoords, values, last, bytesOf_writeNumbers,
    bytesOf_writeNumbers, bytesOf_writeNumbers]
  simp only [membersBytes, memberBytes, first, List.append_assoc, List.cons_append,
    List.nil_append]

section Record

variable {volume : Volume Single} {levels : Nat} {behind : List UInt8}

/-- One member, and the members behind it. -/
theorem member_more {first : Bool} {count : Nat} {key : String} {draft next : Draft}
    {value rest : List UInt8} {result : Option Draft} (quotable : Quotable key)
    (own : Reads ((record (levels + 1)).member draft key) (byteOf ':' :: value) (some next)
      (rest ++ behind))
    (others : Reads (membersFrom (record (levels + 1)).member count false next) rest result
      behind) :
    Reads (membersFrom (record (levels + 1)).member (count + 1) first draft)
      (memberBytes first key value ++ rest) result behind := by
  rw [memberBytes, List.append_assoc]
  exact membersFrom_more first quotable own others

theorem field_reads {β : Type} {name : String} {get : Draft → Option β} {set : Draft → β → Draft}
    {reader : Reader β} {value : List UInt8} {result : Option β} (draft : Draft)
    (reads : Reads reader value result behind) :
    Reads ((Field.of name get set reader).read draft) value (result.map (set draft)) behind := by
  have stepped : (Field.of name get set reader).read draft = set draft <$> reader :=
    (map_eq_pure_bind _ _).symm
  rw [stepped]
  exact reads.map

variable (corners : (volume.minCoords.toList ++ volume.maxCoords.toList).all Scalar.isFinite = true)
  (readsBack : ∀ x ∈ volume.minCoords.toList ++ volume.maxCoords.toList ++ volume.values,
    ReadsBack x)

include corners readsBack

theorem members_reads :
    Reads (members (record (levels + 1)).member {}) (membersBytes volume)
      ((Option.guard (·.all Scalar.isFinite) volume.values).map fun values =>
        ⟨some volume.resolution, some volume.minCoords, some volume.maxCoords, some values⟩)
      (byteOf '\x7d' :: behind) := by
  obtain ⟨low, high⟩ := Bool.and_eq_true_iff.mp (List.all_append.symm.trans corners)
  obtain ⟨cornersBack, valuesBack⟩ := List.forall_mem_append.mp readsBack
  obtain ⟨lowBack, highBack⟩ := List.forall_mem_append.mp cornersBack
  let member := (record (levels + 1)).member
  let first : Draft := ⟨some volume.resolution, none, none, none⟩
  let second : Draft := ⟨some volume.resolution, some volume.minCoords, none, none⟩
  let third : Draft := ⟨some volume.resolution, some volume.minCoords, some volume.maxCoords, none⟩
  let whole (values : List Single) : Draft := { third with values := some values }
  have resolution {behind : List UInt8} (delimits : Delimits behind) :
      Reads (member {} "resolution") (byteOf ':' :: bytesOf (toString volume.resolution.toNat))
        (some first) behind :=
    member_reads rfl rfl (field_reads {} (natural32_reads delimits volume.resolution))
  have minCoords (behind : List UInt8) : Reads (member first "minCoords")
      (byteOf ':' :: numbersBytes volume.minCoords.toList) (some second) behind :=
    member_reads rfl rfl (field_reads first (vector_reads levels low lowBack))
  have maxCoords (behind : List UInt8) : Reads (member second "maxCoords")
      (byteOf ':' :: numbersBytes volume.maxCoords.toList) (some third) behind :=
    member_reads rfl rfl (field_reads second (vector_reads levels high highBack))
  have values (behind : List UInt8) : Reads (member third "values")
      (byteOf ':' :: numbersBytes volume.values)
      ((Option.guard (·.all Scalar.isFinite) volume.values).map whole) behind :=
    member_reads rfl rfl (field_reads third
      (list_reads (fun x member => writes_number (valuesBack x member)) levels))
  have last (count : Nat) : Reads (membersFrom member (count + 2) false third)
      (memberBytes false "values" (numbersBytes volume.values))
      ((Option.guard (·.all Scalar.isFinite) volume.values).map whole)
      (byteOf '\x7d' :: behind) := by
    generalize Option.guard (·.all Scalar.isFinite) volume.values = read at values ⊢
    cases read with
    | none => exact membersFrom_none false (by simp [Quotable]) (values _)
    | some xs =>
        rw [← List.append_nil (memberBytes ..)]
        exact member_more (by simp [Quotable]) (values _) (membersFrom_done false count)
  have readAll (count : Nat) : Reads (membersFrom member (count + 5) true {}) (membersBytes volume)
      ((Option.guard (·.all Scalar.isFinite) volume.values).map whole)
      (byteOf '\x7d' :: behind) :=
    member_more (by simp [Quotable]) (resolution ⟨_, _, rfl, .inl rfl⟩)
      (member_more (by simp [Quotable]) (minCoords _)
        (member_more (by simp [Quotable]) (maxCoords _) (last count)))
  intro c here
  have enough : 4 ≤ c.rest.length := by
    rw [here]
    simp only [membersBytes, memberBytes, quoted, List.length_append, List.length_cons]
    omega
  obtain ⟨count, length⟩ := Nat.exists_eq_add_of_le' enough
  have read := readAll count c here
  rw [← show c.rest.length + 1 = count + 5 by omega] at read
  exact read

/-- A volume is read from what is written for it, unless it has a value that is not finite. -/
theorem record_reads : Reads (Record.read record (levels + 2))
    (byteOf '\x7b' :: (membersBytes volume ++ [byteOf '\x7d']))
    (if volume.values.all Scalar.isFinite = true then some volume else none) behind := by
  have finished : Reads (members (record (levels + 1)).member {} >>= fun draft =>
      ofExcept ((record (levels + 1)).finish Record.missingMember draft)) (membersBytes volume)
      (if volume.values.all Scalar.isFinite = true then some volume else none)
      (byteOf '\x7d' :: behind) := by
    have gathered : Reads (members (record (levels + 1)).member {}) (membersBytes volume) _
        (byteOf '\x7d' :: behind) := members_reads corners readsBack
    by_cases finite : volume.values.all Scalar.isFinite = true
    · rw [Option.guard, if_pos finite] at gathered
      rw [if_pos finite]
      exact gathered.bind_last (.pure volume)
    · rw [Option.guard, if_neg finite] at gathered
      rw [if_neg finite]
      exact gathered.bind_none
  have opened : Reads (inObject (levels + 2) fun inner => members (record inner).member {} >>=
      fun draft => ofExcept ((record inner).finish Record.missingMember draft)) _ _ behind :=
    inObject_reads (levels + 1) finished
  unfold Record.read
  rw [valueStart_bind]
  exact .look rfl rfl opened

end Record

/-- The file of a volume with finite corners is read back, or refused because of its values. -/
theorem read_write {volume : Volume Single}
    (corners : (volume.minCoords.toList ++ volume.maxCoords.toList).all Scalar.isFinite = true)
    (readsBack : ∀ x ∈ volume.minCoords.toList ++ volume.maxCoords.toList ++ volume.values,
      ReadsBack x) (other : Volume Single) :
    Volume.read volume.write = .ok other ↔
      volume.values.all Scalar.isFinite = true ∧ volume = other := by
  have bytes : (Cursor.start (bytesOf volume.write)).rest =
      byteOf '\x7b' :: (membersBytes volume ++ [byteOf '\x7d']) ++ [] := by
    rw [List.append_nil, ← bytesOf_write]
    rfl
  have reads : remaining (Record.read record maxLevels (Cursor.start (bytesOf volume.write))) = _ :=
    record_reads corners readsBack _ bytes
  have text : Volume.read volume.write = readText (Record.read record) (bytesOf volume.write) := rfl
  rw [text, readText_ok]
  constructor
  · rintro ⟨d, read, -⟩
    rw [read] at reads
    by_cases finite : volume.values.all Scalar.isFinite = true
    · rw [if_pos finite] at reads
      exact ⟨finite, (Prod.mk.inj (Option.some.inj reads)).1.symm⟩
    · rw [if_neg finite] at reads
      cases reads
  · rintro ⟨finite, rfl⟩
    rw [if_pos finite] at reads
    obtain ⟨d, read, done⟩ := remaining_eq_some.mp reads
    exact ⟨d, read, by rw [done]; rfl⟩

end Volume

section Export

open ExportJob

variable {S : Type} [Scalar S] {settings : ExportSettings S} {grid : Grid S} {field : Nat → S}
  {sampler : Sampler S} {cancels : List S → Bool} {volume : Volume S}

theorem ExportJob.Samples.run_ok {job : ExportJob S} (samples : Samples grid field job)
    (honors : sampler.Honors grid field) {count : Nat} {reported : List S}
    (handed : (job.run sampler cancels count reported).2 = .ok volume) :
    volume = grid.volume field := by
  -- on the steps that are left; the values stay those of the first cells
  induction count generalizing job reported with
  | zero =>
      cases going : cancels reported with
      | true =>
          rw [run_cancelled going] at handed
          cases handed
      | false =>
          have finishes : job.finish = .ok volume := by simpa [ExportJob.run, going] using handed
          have full : job.values.length = grid.size :=
            samples.grid_eq ▸ (finish_ok_iff.mp finishes).2.1
          exact Except.ok.inj (finishes.symm.trans (samples.finish full))
  | succ count ih =>
      cases going : cancels reported with
      | true =>
          rw [run_cancelled going] at handed
          cases handed
      | false =>
          cases finished : job.isFinished with
          | true =>
              rw [run_of_finished going finished,
                samples.finish (samples.isFinished_iff.mp finished)] at handed
              exact (Except.ok.inj handed).symm
          | false =>
              have unfinished : job.values.length ≠ grid.size := fun full => by
                rw [samples.isFinished_iff.mpr full] at finished
                cases finished
              obtain ⟨progress, next, steps, samples, -⟩ :=
                samples.step honors (Nat.lt_of_le_of_ne samples.bounded unfinished)
              rw [run_of_stepped going finished steps] at handed
              exact ih samples handed

theorem exportVolume_ok (accepted : settings.grid = .ok grid) (honors : sampler.Honors grid field)
    (handed : (exportVolume sampler settings cancels).2 = .ok volume) :
    volume = grid.volume field := by
  rw [exportVolume, accepted] at handed
  exact (samples_start grid field defaultBatchSize).run_ok honors handed

end Export

theorem exported_corners {settings : ExportSettings Single} {grid : Grid Single}
    (accepted : settings.grid = .ok grid) :
    (grid.low.toList ++ grid.high.toList).all Scalar.isFinite = true := by
  obtain ⟨-, -, rfl⟩ := ExportSettings.grid_ok accepted
  have spans := ExportSettings.grid_spans accepted
  simp only [ExportSettings.spansBox, Bool.and_eq_true] at spans
  rw [List.all_append, Bool.and_eq_true]
  exact ⟨spans.1.1.1.1, spans.1.1.1.2⟩

/-- The file of an exported volume is read back if and only if the distance at every center of a
cell is finite; otherwise it is not read at all. -/
theorem exported_file_reads_back {scene : Scene Single} {settings : ExportSettings Single}
    {cancels : List Single → Bool} {volume : Volume Single}
    (exported : (exportVolume (Sampler.ofScene scene) settings cancels).2 = .ok volume)
    (readsBack : ∀ x ∈ volume.minCoords.toList ++ volume.maxCoords.toList ++ volume.values,
      Scalar.isFinite x = true →
        readText (fun _ => single) (Volume.writeNumber x).toUTF8.toList = .ok x) :
    (Volume.read volume.write = .ok volume ↔
      ∀ n < volume.grid.size, Scalar.isFinite (scene.distance (volume.grid.centerOf n)) = true) ∧
    ∀ other, Volume.read volume.write = .ok other → other = volume := by
  cases accepted : settings.grid with
  | error e =>
      rw [exportVolume, accepted] at exported
      cases exported
  | ok grid =>
      have whole := exportVolume_ok accepted (Sampler.ofScene_honors scene grid) exported
      have corners : (volume.minCoords.toList ++ volume.maxCoords.toList).all Scalar.isFinite =
          true := by
        rw [whole]
        exact exported_corners accepted
      have reads := Volume.read_write corners readsBack
      have values : volume.values.all Scalar.isFinite = true ↔ ∀ n < volume.grid.size,
          Scalar.isFinite (scene.distance (volume.grid.centerOf n)) = true := by
        rw [whole, List.all_eq_true]
        show (∀ x ∈ (List.range grid.size).map _, _) ↔ _
        rw [List.forall_mem_map]
        simp only [List.mem_range]
        rfl
      refine ⟨(reads volume).trans ((and_iff_left rfl).trans values), fun other read => ?_⟩
      exact ((reads other).mp read).2.symm

def twoPerAxis : ExportSettings Single := ⟨2, Vec3.splat (-1.0), Vec3.splat 1.0⟩

theorem twoPerAxis_reads_back :
    ∃ volume, (exportVolume (Sampler.ofScene ballAndBox) twoPerAxis fun _ => false).2 = .ok volume ∧
      volume.values.length = 8 ∧ Volume.read volume.write = .ok volume := by
  let grid : Grid Single := ⟨2, Vec3.splat (-1.0), Vec3.splat 1.0⟩
  let volume := grid.volume fun n => ballAndBox.distance (grid.centerOf n)
  have handed : (exportVolume (Sampler.ofScene ballAndBox) twoPerAxis fun _ => false).2.toOption =
      some volume := by decide +kernel
  have numbers : ∀ x ∈ volume.minCoords.toList ++ volume.maxCoords.toList ++ volume.values,
      Scalar.isFinite x = true →
        (readText (fun _ => single) (Volume.writeNumber x).toUTF8.toList).toOption = some x := by
    decide +kernel
  have finite : ∀ n < volume.grid.size,
      Scalar.isFinite (ballAndBox.distance (volume.grid.centerOf n)) = true := by decide +kernel
  have exported := Outcome.toOption_eq_some.mp handed
  refine ⟨volume, exported, by decide +kernel, ?_⟩
  exact (exported_file_reads_back exported fun x member finite =>
    Outcome.toOption_eq_some.mp (numbers x member finite)).1.mpr finite

/-- A sphere whose place is finite, but not its square. -/
def distantSphere : String :=
  "\x7b\"objectList\":[\x7b\"type\":\"sphere\",\"center\":[1e20,0,0],\"radius\":1," ++
    "\"material\":\"lambert\"\x7d]\x7d"

def oneCell : ExportSettings Single := ⟨1, Vec3.splat (-1.0), Vec3.splat 1.0⟩

def nullVolume : String :=
  "\x7b\"resolution\":1,\"minCoords\":[-1.0,-1.0,-1.0],\"maxCoords\":[1.0,1.0,1.0]," ++
    "\"values\":[null]\x7d"

/-- An export whose file is not read, though all numbers of the scene and of the settings are
finite. -/
theorem unreadable_export : ∃ scene volume, SceneFile.compile distantSphere = .ok scene ∧
    (exportVolume (Sampler.ofScene scene) oneCell fun _ => false).2 = .ok volume ∧
    volume.write = nullVolume ∧ ∀ other, Volume.read volume.write ≠ .ok other := by
  have handed : (SceneFile.compile distantSphere).toOption.map (fun scene =>
      (exportVolume (Sampler.ofScene scene) oneCell fun _ => false).2.toOption.map Volume.write) =
      some (some nullVolume) := by decide +kernel
  have refused : (Volume.read nullVolume).toOption = none := by decide +kernel
  obtain ⟨scene, accepted, written⟩ := Option.map_eq_some_iff.mp handed
  obtain ⟨volume, exported, text⟩ := Option.map_eq_some_iff.mp written
  refine ⟨scene, volume, Outcome.toOption_eq_some.mp accepted,
    Outcome.toOption_eq_some.mp exported, text, fun other read => ?_⟩
  rw [text] at read
  rw [Outcome.toOption_eq_some.mpr read] at refused
  cases refused

end RayScene
