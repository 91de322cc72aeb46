import RayScene.Proofs.Shader.Phrases

namespace RayScene.Wgsl

section Items

variable {S : Type}

def Attribute.spelled : Attribute → Bool
  | builtin name => isWord name
  | _ => true

def attributesSpelled (attributes : List Attribute) : Bool :=
  attributes.all fun a => a.spelled && a.binding?.isNone

def Slot.spelled (slot : Slot) : Bool :=
  attributesSpelled slot.attributes && isVariable slot.name && slot.type.spelled

def Function.spelled (f : Function S) : Bool :=
  attributesSpelled f.attributes && isVariable f.name && f.parameters.all Slot.spelled &&
    attributesSpelled f.resultAttributes && f.result.all Ty.spelled && blockSpelled f.body

def Item.spelled : Item S → Bool
  | comment text => !text.toList.contains '\n'
  | constant name type value => isVariable name && type.spelled && value.spelled
  | struct name members => isVariable name && members.all Slot.spelled
  | global attributes _ name type =>
    attributes.all Attribute.spelled && isVariable name && type.spelled
  | function definition => definition.spelled

def Module.Spelled (m : Module S) : Prop := ∀ item ∈ m.items, item.spelled = true

def Function.innerEvents (f : Function S) : List Event :=
  uses (slotMentions f.parameters ++ f.result.elim [] Ty.mentions) ++
    blockEvents (f.parameters.map (·.name)) f.body

def Function.events (f : Function S) : List Event :=
  .declares (.function f.name) :: f.innerEvents

def Item.events (item : Item S) : List Event :=
  match item with
  | function definition => definition.events
  | item => item.bindings.map .binding ++ item.declared?.toList.map .declares ++ uses item.mentions

def Module.events (m : Module S) : List Event := m.items.flatMap Item.events

end Items

section Pieces

variable {r : Reader} {role : Role} {t : List Char}

def Unargued (t : List Char) : Prop := Reader.nextSymbol (tokens t) ≠ some '('

theorem unargued_word {name : String} (word : isWord name = true) (apart : Apart t) :
    Unargued (name.toList ++ t) := by
  obtain ⟨nonempty, all⟩ := isWord_iff.mp word
  rw [Unargued, tokens_word nonempty all apart]
  exact (by decide : (none : Option Char) ≠ some '(')

def Role.Attributed (role : Role) : Prop := role = plain ∨ role = type

theorem reading_argument {name : String} {argument : List Char} (isOpen : role.Attributed)
    (word : isWord name = true) (nonempty : argument ≠ [])
    (all : ∀ c ∈ argument, isWordChar c = true) :
    reading (r.inRole role) ('@' :: (name.toList ++ '(' :: (argument ++ ')' :: t))) =
      (if name = "binding" then [.binding (wholeNumber (String.ofList argument))] else []) ++
        reading (r.inRole role) t := by
  have named := reading_name (r := r.inRole (.attributeName role)) word
    (apart_cons (by decide : isWordChar '(' = false) (argument ++ ')' :: t))
  have argued := reading_word (r := r.inRole (.arguments name role)) nonempty all
    (apart_cons (by decide : isWordChar ')' = false) t)
  have started : reading (r.inRole role) ('@' :: (name.toList ++ '(' :: (argument ++ ')' :: t))) =
      reading (r.inRole (.attributeName role)) (name.toList ++ '(' :: (argument ++ ')' :: t)) := by
    rcases isOpen with rfl | rfl <;> rfl
  exact started.trans (named.trans argued)

theorem Attribute.reads (a : Attribute) (spelled : a.spelled = true) (isOpen : role.Attributed)
    (apart : Apart t) (unargued : Unargued t) :
    reading (r.inRole role) (a.write.toList ++ t) =
      a.binding?.toList.map .binding ++ reading (r.inRole role) t := by
  -- Without an argument the reader is back in its role as soon as the name ends.
  have alone {name : String} (word : isWord name = true) :
      reading (r.inRole role) ('@' :: (name.toList ++ t)) = reading (r.inRole role) t := by
    have named := reading_name (r := r.inRole (.attributeName role)) word apart
    have taken : (r.inRole (.attributeName role)).word name (Reader.nextSymbol (tokens t)) =
        (r.inRole role, []) := congrArg (fun outer => (r.inRole outer, [])) (if_neg unargued)
    rw [taken] at named
    rcases isOpen with rfl | rfl <;> exact named
  have argued {name : String} (word : isWord name = true) (n : Nat) := by
    have nonempty : (toString n).toList ≠ [] := by
      rw [toList_natural]
      exact Nat.toDigits_ne_nil
    exact reading_argument (r := r) (t := t) isOpen word nonempty (isWordChar_natural n)
  cases a with
  | vertex =>
      have name := alone (by decide : isWord "vertex" = true)
      exact name
  | fragment =>
      have name := alone (by decide : isWord "fragment" = true)
      exact name
  | compute =>
      have name := alone (by decide : isWord "compute" = true)
      exact name
  | workgroupSize n =>
      unfold Attribute.write
      simp only [String.toList_append, List.append_assoc]
      exact argued (by decide : isWord "workgroup_size" = true) n
  | location n =>
      unfold Attribute.write
      simp only [String.toList_append, List.append_assoc]
      exact argued (by decide : isWord "location" = true) n
  | group n =>
      unfold Attribute.write
      simp only [String.toList_append, List.append_assoc]
      exact argued (by decide : isWord "group" = true) n
  | builtin name =>
      obtain ⟨nonempty, all⟩ := isWord_iff.mp spelled
      unfold Attribute.write
      simp only [String.toList_append, List.append_assoc]
      have named := reading_argument (r := r) (t := t) isOpen (by decide : isWord "builtin" = true)
        nonempty all
      exact named
  | binding n =>
      have number := wholeNumber_toString n [] rfl
      rw [List.append_nil] at number
      have read := argued (by decide : isWord "binding" = true) n
      rw [if_pos rfl, number] at read
      unfold Attribute.write
      simp only [String.toList_append, List.append_assoc]
      exact read

theorem Attribute.unargued (a : Attribute) (t : List Char) :
    Unargued (a.write.toList ++ t) := by
  have initial : ∃ text, a.write.toList = '@' :: text := by
    unfold Attribute.write
    cases a <;> simp only [String.toList_append] <;> exact ⟨_, rfl⟩
  obtain ⟨text, same⟩ := initial
  rw [same, Unargued]
  exact (by decide : some '@' ≠ some '(')

theorem toList_writeAttributes_cons (a : Attribute) (attributes : List Attribute) :
    (writeAttributes (a :: attributes)).toList =
      a.write.toList ++ ' ' :: (writeAttributes attributes).toList := by
  rw [writeAttributes, List.map_cons, String.join_cons, String.toList_append,
    String.toList_append, List.append_assoc]
  rfl

theorem unargued_attributes (attributes : List Attribute) (unargued : Unargued t) :
    Unargued ((writeAttributes attributes).toList ++ t) := by
  cases attributes with
  | nil => exact unargued
  | cons a attributes =>
      rw [toList_writeAttributes_cons, List.append_assoc]
      exact a.unargued _

theorem attributes_read {attributes : List Attribute}
    (spelled : attributes.all Attribute.spelled = true) (isOpen : role.Attributed)
    (unargued : Unargued t) :
    reading (r.inRole role) ((writeAttributes attributes).toList ++ t) =
      (attributes.filterMap Attribute.binding?).map .binding ++ reading (r.inRole role) t := by
  induction attributes with
  | nil => rfl
  | cons a attributes ih =>
      rw [List.all_cons, Bool.and_eq_true] at spelled
      have first := a.reads (r := r) spelled.1 isOpen
        (apart_cons (by decide : isWordChar ' ' = false)
          ((writeAttributes attributes).toList ++ t)) (unargued_attributes attributes unargued)
      rw [toList_writeAttributes_cons, List.append_assoc]
      refine first.trans ?_
      have blank := reading_blanks (r := r.inRole role)
        (t := (writeAttributes attributes).toList ++ t) (by simp : ∀ c ∈ [' '], c = ' ' ∨ c = '\n')
      rw [← List.singleton_append, blank, ih spelled.2, ← List.append_assoc, ← List.map_append,
        List.filterMap_cons]
      cases a.binding? <;> rfl

theorem inRole_bind (name : String) :
    (r.inRole role).bind name = (r.bind name).inRole role := by
  obtain ⟨_, header, blocks, _⟩ := r
  cases header <;> cases blocks <;> rfl

theorem isName_of_isVariable {name : String} (named : isVariable name = true) :
    isName name = true := by
  rw [isVariable, Bool.and_eq_true] at named
  exact named.1

theorem Ty.unargued (type : Ty) (spelled : type.spelled = true) (apart : Apart t) :
    Unargued (type.write.toList ++ t) := by
  cases type with
  | struct name => exact unargued_word (isWord_of_isVariable spelled) apart
  | texture | floats => exact nofun
  | _ => exact unargued_word (by decide) apart

theorem Slot.reads (slot : Slot) (spelled : slot.spelled = true) (ends : Ends t) :
    reading (r.inRole .plain) (slot.write.toList ++ t) =
      uses slot.type.mentions ++ reading ((r.bind slot.name).inRole .plain) t := by
  simp only [Slot.spelled, attributesSpelled, Bool.and_eq_true, List.all_eq_true] at spelled
  obtain ⟨⟨attributes, named⟩, typed⟩ := spelled
  have unbound : slot.attributes.filterMap Attribute.binding? = [] :=
    List.filterMap_eq_nil_iff.mpr fun a member =>
      Option.isNone_iff_eq_none.mp (attributes a member).2
  have front := attributes_read (r := r) (t := slot.name.toList ++ ':' :: ' ' ::
    (slot.type.write.toList ++ t)) (List.all_eq_true.mpr fun a member => (attributes a member).1)
    (.inl rfl) (unargued_word (isWord_of_isVariable named) (apart_cons rfl _))
  have name := reading_name (r := r.inRole .plain) (isWord_of_isVariable named)
    (apart_cons (by decide : isWordChar ':' = false) (' ' :: (slot.type.write.toList ++ t)))
  have next : Reader.nextSymbol (tokens (':' :: ' ' :: (slot.type.write.toList ++ t))) =
      some ':' := rfl
  have type := slot.type.reads (r := r.bind slot.name) typed ends
  rw [word_open (.inl rfl), next, plainWord_slot (isName_of_isVariable named), inRole_bind] at name
  rw [unbound] at front
  rw [Slot.write, String.toList_append, String.toList_append, String.toList_append,
    List.append_assoc, List.append_assoc, List.append_assoc]
  exact front.trans (name.trans type)

def heading (names : List String) : Reader := ⟨.plain, some names, [], none⟩

theorem parameters_read {slots : List Slot} (spelled : slots.all Slot.spelled = true)
    (names : List String) (ends : Ends t) :
    reading (heading names) ((", ".intercalate (slots.map Slot.write)).toList ++ t) =
      uses (slotMentions slots) ++ reading (heading (names ++ slots.map (·.name))) t := by
  match slots with
  | [] =>
      rw [List.map_nil, List.map_nil, List.append_nil]
      rfl
  | [slot] =>
      rw [List.all_cons, Bool.and_eq_true] at spelled
      have only := slot.reads (r := heading names) spelled.1 ends
      rw [List.map_singleton, String.intercalate_singleton, slotMentions, List.flatMap_singleton]
      exact only
  | slot :: next :: slots =>
      rw [List.all_cons, Bool.and_eq_true] at spelled
      have others := parameters_read spelled.2 (names ++ [slot.name]) ends
      have first := slot.reads (r := heading names) (t := ',' :: ' ' ::
        ((", ".intercalate ((next :: slots).map Slot.write)).toList ++ t)) spelled.1
        (ends_symbol (by decide) _)
      rw [List.append_assoc, List.singleton_append] at others
      rw [List.map_cons, List.map_cons, String.intercalate_cons_cons, ← List.map_cons,
        slotMentions, List.flatMap_cons, uses_append, List.append_assoc, String.toList_append,
        String.toList_append, List.append_assoc, List.append_assoc]
      exact first.trans (congrArg _ others)

theorem members_read {slots : List Slot} (spelled : slots.all Slot.spelled = true)
    (names : List String) :
    ∃ after, reading (inside names []) ((String.join (slots.map fun m =>
        indentation 1 ++ m.write ++ ",\n")).toList ++ t) =
      uses (slotMentions slots) ++ reading (inside after []) t := by
  induction slots generalizing names with
  | nil => exact ⟨names, rfl⟩
  | cons slot slots ih =>
      rw [List.all_cons, Bool.and_eq_true] at spelled
      obtain ⟨after, others⟩ := ih spelled.2 (slot.name :: names)
      have first := slot.reads (r := inside names []) (t := ',' :: '\n' :: ((String.join
        (slots.map fun m => indentation 1 ++ m.write ++ ",\n")).toList ++ t)) spelled.1
        (ends_symbol (by decide) _)
      refine ⟨after, ?_⟩
      rw [List.map_cons, String.join_cons, slotMentions, List.flatMap_cons, uses_append]
      simp only [String.toList_append, List.append_assoc, reading_indentation]
      exact first.trans (congrArg _ others)

theorem unargued_stages (a : Attribute) (attributes : List Attribute) (t : List Char) :
    Unargued ((" ".intercalate ((a :: attributes).map Attribute.write)).toList ++ t) := by
  cases attributes with
  | nil => exact a.unargued t
  | cons next attributes =>
      rw [List.map_cons, List.map_cons, String.intercalate_cons_cons, String.toList_append,
        String.toList_append, List.append_assoc, List.append_assoc]
      exact a.unargued _

theorem stages_read {attributes : List Attribute}
    (spelled : attributesSpelled attributes = true) (unargued : Unargued t) :
    reading .start ((" ".intercalate (attributes.map Attribute.write)).toList ++ '\n' :: t) =
      reading .start t := by
  match attributes with
  | [] => rfl
  | [a] =>
      simp only [attributesSpelled, List.all_cons, Bool.and_eq_true,
        Option.isNone_iff_eq_none] at spelled
      have only := a.reads (r := .start) (t := '\n' :: t) spelled.1.1 (.inl rfl)
        (apart_cons rfl _) unargued
      rw [spelled.1.2] at only
      rw [List.map_singleton, String.intercalate_singleton]
      exact only
  | a :: next :: attributes =>
      rw [attributesSpelled, List.all_cons, Bool.and_eq_true] at spelled
      have stage : a.spelled = true ∧ a.binding? = none := by
        rw [← Option.isNone_iff_eq_none, ← Bool.and_eq_true]
        exact spelled.1
      have others := stages_read spelled.2 unargued
      have first := a.reads (r := .start) (t := ' ' :: ((" ".intercalate
        ((next :: attributes).map Attribute.write)).toList ++ '\n' :: t)) stage.1 (.inl rfl)
        (apart_cons rfl _) (unargued_stages next attributes ('\n' :: t))
      rw [stage.2] at first
      rw [List.map_cons, List.map_cons, String.intercalate_cons_cons, ← List.map_cons,
        String.toList_append, String.toList_append, List.append_assoc, List.append_assoc]
      exact first.trans others

theorem body_reads (f : Function Single) (spelled : blockSpelled f.body = true)
    (names : List String) :
    reading (heading names) (" \x7b\n".toList ++ ((writeBlock 1 f.body).toList ++
        ("\x7d\n".toList ++ t))) =
      blockEvents names f.body ++ reading .start t := by
  have body := block_reads f.body spelled 1 names [] ("\x7d\n".toList ++ t)
  rw [List.flatten_nil, List.append_nil] at body
  exact body

theorem result_reads (f : Function Single) (attributes : attributesSpelled f.resultAttributes = true)
    (typed : f.result.all Ty.spelled = true) (names : List String) :
    reading (heading names) ((match f.result with
        | some type => " -> " ++ writeAttributes f.resultAttributes ++ type.write
        | none => "").toList ++ ' ' :: '\x7b' :: t) =
      uses (f.result.elim [] Ty.mentions) ++ reading (heading names) (' ' :: '\x7b' :: t) := by
  cases result : f.result with
  | none => rfl
  | some type =>
      rw [result] at typed
      simp only [attributesSpelled, List.all_eq_true, Bool.and_eq_true] at attributes
      have unbound : f.resultAttributes.filterMap Attribute.binding? = [] :=
        List.filterMap_eq_nil_iff.mpr fun a member =>
          Option.isNone_iff_eq_none.mp (attributes a member).2
      have front := attributes_read (r := heading names)
        (t := type.write.toList ++ ' ' :: '\x7b' :: t)
        (List.all_eq_true.mpr fun a member => (attributes a member).1)
        (.inr rfl : Role.Attributed .type) (type.unargued typed (apart_cons rfl _))
      have named := type.reads (r := heading names) typed (ends_block t)
      rw [unbound] at front
      simp only [String.toList_append, List.append_assoc]
      exact front.trans named

theorem Function.reads (f : Function Single) (spelled : f.spelled = true) :
    reading .start (f.write.toList ++ t) = f.events ++ reading .start t := by
  simp only [Function.spelled, Bool.and_eq_true] at spelled
  obtain ⟨⟨⟨⟨⟨stages, named⟩, slots⟩, results⟩, typed⟩, body⟩ := spelled
  have front (text : List Char) : reading .start ((if f.attributes.isEmpty then "" else
      " ".intercalate (f.attributes.map Attribute.write) ++ "\n").toList ++ 'f' :: 'n' :: ' ' ::
        (f.name.toList ++ '(' :: text)) =
      .declares (.function f.name) :: reading (heading []) text := by
    have name := reading_name (r := Reader.start.inRole .function) (isWord_of_isVariable named)
      (apart_cons (by decide : isWordChar '(' = false) text)
    cases attributes : f.attributes with
    | nil => exact name
    | cons a others =>
        rw [attributes] at stages
        have staged := stages_read (t := 'f' :: 'n' :: ' ' :: (f.name.toList ++ '(' :: text))
          stages nofun
        rw [List.isEmpty_cons, if_neg Bool.false_ne_true, String.toList_append, List.append_assoc]
        exact staged.trans name
  have parameters (text : List Char) := parameters_read slots [] (ends_symbol (by decide : ')' ∈ _) text)
  have result (text : List Char) := result_reads (t := text) f results typed (f.parameters.map (·.name))
  have inner := body_reads (t := t) f body (f.parameters.map (·.name))
  simp only [Function.write, String.toList_append, List.append_assoc]
  refine (front _).trans ?_
  rw [Function.events, Function.innerEvents, uses_append, List.cons_append, List.append_assoc, List.append_assoc]
  refine congrArg _ ((parameters _).trans (congrArg _ ?_))
  exact (result _).trans (congrArg _ inner)

theorem comment_reads {text : List Char} (single : '\n' ∉ text) :
    Cutting.comment.run (text ++ '\n' :: t) = tokens t := by
  induction text with
  | nil => rfl
  | cons c text ih =>
      obtain ⟨other, single⟩ := not_or.mp (mt List.mem_cons.mpr single)
      rw [List.cons_append, Cutting.run, Cutting.step, if_neg (Ne.symm other), List.nil_append]
      exact ih single

theorem AddressSpace.reads (space : AddressSpace) (t : List Char) :
    reading .start (space.write.toList ++ ' ' :: t) =
      reading (Reader.start.inRole .variable) t := by
  cases space <;> rfl

theorem AddressSpace.unargued (space : AddressSpace) (t : List Char) :
    Unargued (space.write.toList ++ ' ' :: t) := by
  cases space <;> exact nofun

theorem Item.reads (item : Item Single) (spelled : item.spelled = true) :
    reading .start (item.write.toList ++ t) = item.events ++ reading .start t := by
  cases item with
  | comment text =>
      rw [Item.spelled, Bool.not_eq_true', List.contains_eq_mem, decide_eq_false_iff_not] at spelled
      have skipped := comment_reads (t := t) spelled
      simp only [Item.write, String.toList_append, List.append_assoc]
      exact congrArg Reader.start.read skipped
  | constant name type value =>
      simp only [Item.spelled, Bool.and_eq_true] at spelled
      obtain ⟨⟨named, typed⟩, valued⟩ := spelled
      have front (text : List Char) := reading_name (r := Reader.start.inRole .constant)
        (isWord_of_isVariable named)
        (apart_cons (by decide : isWordChar ':' = false) (' ' :: text))
      have middle (text : List Char) := type.reads (r := .start) (t := ' ' :: '=' :: ' ' :: text)
        typed ⟨rfl, _, rfl, by decide⟩
      have back := congrArg (uses type.mentions ++ ·) (value.reads valued 0 (r := .start) (.inl rfl)
        (ends_symbol (by decide : ';' ∈ _) ('\n' :: t)))
      rw [← List.append_assoc, ← uses_append] at back
      simp only [Item.write, String.toList_append, List.append_assoc]
      exact (front _).trans (congrArg _ ((middle _).trans back))
  | struct name members =>
      simp only [Item.spelled, Bool.and_eq_true] at spelled
      obtain ⟨after, listed⟩ := members_read (t := "\x7d;\n".toList ++ t) spelled.2 []
      have name (text : List Char) := reading_name (r := Reader.start.inRole .struct)
        (isWord_of_isVariable spelled.1)
        (apart_cons (by decide : isWordChar ' ' = false) ('\x7b' :: '\n' :: text))
      simp only [Item.write, String.toList_append, List.append_assoc]
      exact (name _).trans (congrArg _ listed)
  | global attributes space name type =>
      simp only [Item.spelled, Bool.and_eq_true] at spelled
      obtain ⟨⟨attributed, named⟩, typed⟩ := spelled
      have type := type.reads (r := .start) typed
        (ends_symbol (by decide : ';' ∈ _) ('\n' :: t))
      have name (text : List Char) := reading_name (r := Reader.start.inRole .variable)
        (isWord_of_isVariable named)
        (apart_cons (by decide : isWordChar ':' = false) (' ' :: text))
      have front (text : List Char) := attributes_read (r := .start) attributed (.inl rfl)
        (space.unargued text)
      simp only [Item.write, String.toList_append, List.append_assoc]
      refine (front _).trans ?_
      rw [Item.events, Item.bindings, List.append_assoc, List.append_assoc]
      · exact congrArg _ ((space.reads _).trans ((name _).trans (congrArg _ type)))
      · exact nofun
  | function definition => exact definition.reads spelled

theorem items_read {items : List (Item Single)} (spelled : ∀ item ∈ items, item.spelled = true) :
    reading .start ((String.join (items.map Item.write)).toList ++ t) =
      items.flatMap Item.events ++ reading .start t := by
  induction items with
  | nil => rfl
  | cons item items ih =>
      obtain ⟨first, others⟩ := List.forall_mem_cons.mp spelled
      rw [List.map_cons, String.join_cons, String.toList_append, List.append_assoc,
        item.reads first, ih others, List.flatMap_cons, List.append_assoc]

theorem Module.events_write (m : Module Single) (spelled : m.Spelled) :
    Wgsl.events m.write = m.events := by
  have paragraphs (paragraphs : List (List (Item Single)))
      (spelled : ∀ item ∈ paragraphs.flatten, item.spelled = true) :
      reading .start (String.join (paragraphs.map fun items =>
        String.join (items.map Item.write) ++ "\n")).toList =
        paragraphs.flatten.flatMap Item.events := by
    induction paragraphs with
    | nil => rfl
    | cons items paragraphs ih =>
        rw [List.flatten_cons, List.forall_mem_append] at spelled
        have first := items_read (t := '\n' :: (String.join (paragraphs.map fun items =>
          String.join (items.map Item.write) ++ "\n")).toList) spelled.1
        rw [List.map_cons, String.join_cons, String.toList_append, String.toList_append,
          List.append_assoc, List.flatten_cons, List.flatMap_append, ← ih spelled.2]
        exact first
  exact paragraphs m.paragraphs spelled

end Pieces

section Sorted

variable {S : Type}

structure Tells (events : List Event) (mentions declared : List Mention) (numbers : List Nat) :
    Prop where
  used : events.filterMap Event.use? = mentions
  declared : events.filterMap Event.declared? = declared
  bound : events.filterMap Event.binding? = numbers

theorem tells_nil : Tells [] [] [] [] := ⟨rfl, rfl, rfl⟩

theorem tells_uses (mentions : List Mention) : Tells (uses mentions) mentions [] [] := by
  constructor <;> rw [uses, List.filterMap_map]
  · exact List.filterMap_some
  · exact List.filterMap_eq_nil_iff.mpr fun _ _ => rfl
  · exact List.filterMap_eq_nil_iff.mpr fun _ _ => rfl

theorem tells_declares (mentions : List Mention) : Tells (mentions.map .declares) [] mentions [] := by
  constructor <;> rw [List.filterMap_map]
  · exact List.filterMap_eq_nil_iff.mpr fun _ _ => rfl
  · exact List.filterMap_some
  · exact List.filterMap_eq_nil_iff.mpr fun _ _ => rfl

theorem tells_binds (numbers : List Nat) : Tells (numbers.map .binding) [] [] numbers := by
  constructor <;> rw [List.filterMap_map]
  · exact List.filterMap_eq_nil_iff.mpr fun _ _ => rfl
  · exact List.filterMap_eq_nil_iff.mpr fun _ _ => rfl
  · exact List.filterMap_some

theorem Tells.append {first second : List Event} {mentions others declared more : List Mention}
    {numbers further : List Nat} (tells : Tells first mentions declared numbers)
    (rest : Tells second others more further) :
    Tells (first ++ second) (mentions ++ others) (declared ++ more) (numbers ++ further) := by
  constructor <;> rw [List.filterMap_append]
  · rw [tells.used, rest.used]
  · rw [tells.declared, rest.declared]
  · rw [tells.bound, rest.bound]

theorem Tells.label {events : List Event} {mentions : List Mention}
    (tells : Tells events mentions [] []) (number : Nat) :
    Tells (.label number :: events) mentions [] [] :=
  ⟨tells.used, tells.declared, tells.bound⟩

mutual

theorem Stmt.tells (scope : List String) (s : Stmt S) :
    Tells (s.events scope) (s.mentions scope) [] [] := by
  match s with
  | .bind name value | .declare name value | .ret value | .effect value => exact tells_uses _
  | .declareEmpty name type => exact tells_uses _
  | .assign target op value => exact tells_uses _
  | .stop | .leave => exact tells_nil
  | .branch condition yes no =>
      exact ((tells_uses _).append (block_tells scope yes)).append (block_tells scope no)
  | .count counter bound body => exact (tells_uses _).append (block_tells (counter :: scope) body)
  | .switch value cases => exact (tells_uses _).append (cases_tell scope cases)

theorem block_tells (scope : List String) (block : List (Stmt S)) :
    Tells (blockEvents scope block) (blockMentions scope block) [] [] := by
  match block with
  | [] => exact tells_nil
  | s :: rest => exact (s.tells scope).append (block_tells (s.binds ++ scope) rest)

theorem cases_tell (scope : List String) (cases : List (Nat × List (Stmt S))) :
    Tells (caseEvents scope cases) (caseMentions scope cases) [] [] := by
  match cases with
  | [] => exact tells_nil
  | (number, body) :: rest =>
      exact ((block_tells scope body).append (cases_tell scope rest)).label number

end

theorem Function.tells (f : Function S) : Tells f.innerEvents f.mentions [] [] :=
  (tells_uses _).append (block_tells _ f.body)

theorem Item.tells (item : Item S) :
    Tells item.events item.mentions item.declared?.toList item.bindings := by
  cases item with
  | function definition =>
      have name := tells_declares [.function definition.name]
      exact name.append definition.tells
  | comment text => exact tells_nil
  | constant name type value =>
      have own := tells_declares [.value name]
      exact own.append (tells_uses _)
  | struct name members =>
      have own := tells_declares [.struct name]
      exact own.append (tells_uses _)
  | global attributes space name type =>
      have bound := tells_binds (attributes.filterMap Attribute.binding?)
      have whole := (bound.append (tells_declares [.value name])).append (tells_uses type.mentions)
      simp only [List.append_nil, List.nil_append] at whole
      exact whole

theorem items_tell (items : List (Item S)) :
    Tells (items.flatMap Item.events) (items.flatMap Item.mentions)
      (items.filterMap Item.declared?) (items.flatMap Item.bindings) := by
  induction items with
  | nil => exact tells_nil
  | cons item items ih =>
      have whole := item.tells.append ih
      rw [List.filterMap_eq_flatMap_toList] at whole ⊢
      exact whole

end Sorted

section Text

variable {m : Module Single} (spelled : m.Spelled)

include spelled

theorem used_write : used m.write = m.mentions := by
  rw [used, m.events_write spelled]
  exact (items_tell m.items).used

theorem declarations_write : declarations m.write = m.items.filterMap Item.declared? := by
  rw [declarations, m.events_write spelled]
  exact (items_tell m.items).declared

theorem names_write : (declarations m.write).map Mention.name = itemNames m.items := by
  rw [declarations_write spelled, List.map_filterMap]
  rfl

theorem declared_write : declared m.write = m.declares := by
  rw [declared, declarations_write spelled, List.filterMap_eq_flatMap_toList, List.flatMap_assoc]
  rfl

theorem bindingNumbers_write : bindingNumbers m.write = m.items.flatMap Item.bindings := by
  rw [bindingNumbers, m.events_write spelled]
  exact (items_tell m.items).bound

theorem closed_write (closed : m.Closed) : Closed m.write := by
  unfold Closed
  rw [used_write spelled, declared_write spelled]
  exact closed

theorem functionEvents_write (once : (itemNames m.items).Nodup) {front : List (Item Single)}
    {f : Function Single} {others : List (Function Single)}
    (placed : m.items = front ++ .function f :: others.map .function) :
    functionEvents f.name m.write = f.innerEvents := by
  -- Names are declared once, so the search runs past everything in front of the function.
  have absent : ∀ e ∈ front.flatMap Item.events, e ≠ .declares (.function f.name) := by
    rintro e member rfl
    have early : .function f.name ∈ front.filterMap Item.declared? := by
      rw [← (items_tell front).declared]
      exact List.mem_filterMap.mpr ⟨_, member, rfl⟩
    obtain ⟨item, inside, own⟩ := List.mem_filterMap.mp early
    have named : f.name ∈ itemNames front :=
      List.mem_filterMap.mpr ⟨item, inside, by rw [Item.name?, own]; rfl⟩
    rw [placed, itemNames, List.filterMap_append] at once
    exact (List.nodup_append.mp once).2.2 _ named _ List.mem_cons_self rfl
  have inner : ∀ e ∈ f.innerEvents, e.declared?.isNone = true := fun e member =>
    Option.isNone_iff_eq_none.mpr (List.filterMap_eq_nil_iff.mp f.tells.declared e member)
  have behind : ((others.map Item.function).flatMap Item.events).takeWhile
      (·.declared?.isNone) = [] := by
    cases others <;> rfl
  have whole : m.events = front.flatMap Item.events ++ .declares (.function f.name) ::
      (f.innerEvents ++ (others.map Item.function).flatMap Item.events) := by
    rw [Module.events, placed, List.flatMap_append, List.flatMap_cons]
    rfl
  rw [functionEvents, m.events_write spelled, whole,
    List.dropWhile_append_of_pos fun e member => decide_eq_true (absent e member),
    List.dropWhile_cons_of_neg (by simp), List.tail_cons, List.takeWhile_append_of_pos inner,
    behind, List.append_nil]

end Text

theorem infix_join {parts : List String} {part : String} (member : part ∈ parts) :
    part.toList <:+: (String.join parts).toList := by
  induction parts with
  | nil => cases member
  | cons first parts ih =>
      rw [String.join_cons, String.toList_append]
      rcases List.mem_cons.mp member with rfl | later
      · exact (List.prefix_append _ _).isInfix
      · exact (ih later).trans (List.suffix_append _ _).isInfix

theorem Module.infix_write {m : Module Single} {f : Function Single}
    (member : .function f ∈ m.items) : f.write.toList <:+: m.write.toList := by
  obtain ⟨paragraph, listed, inside⟩ := List.mem_flatten.mp member
  have line : f.write.toList <:+: (String.join (paragraph.map Item.write)).toList :=
    infix_join (List.mem_map.mpr ⟨_, inside, rfl⟩)
  have block := infix_join (List.mem_map_of_mem (f := fun items : List (Item Single) =>
    String.join (items.map Item.write) ++ "\n") listed)
  rw [String.toList_append] at block
  exact line.trans ((List.prefix_append _ _).isInfix.trans block)

section Cases

variable {S : Type} {events rest : List Event}

theorem labelled_append (plain : ∀ e ∈ events, e.isLabel = false) :
    labelled (events ++ rest) = labelled rest := by
  induction events with
  | nil => rfl
  | cons e events ih =>
      obtain ⟨first, others⟩ := List.forall_mem_cons.mp plain
      rw [List.cons_append, ← ih others]
      cases e with
      | label number => cases first
      | _ => rfl

theorem uses_plain (mentions : List Mention) : ∀ e ∈ uses mentions, e.isLabel = false :=
  List.forall_mem_map.mpr fun _ _ => rfl

/-- Cases without switches of their own are told apart by their labels. -/
theorem labelled_cases (scope : List String) {cases : List (Nat × List (Stmt S))}
    (plain : ∀ c ∈ cases, ∀ e ∈ blockEvents scope c.2, e.isLabel = false) :
    labelled (caseEvents scope cases) = cases.map fun c => (c.1, blockMentions scope c.2) := by
  induction cases with
  | nil => rfl
  | cons c cases ih =>
      obtain ⟨number, body⟩ := c
      obtain ⟨first, others⟩ := List.forall_mem_cons.mp plain
      have unlabelled : ∀ e ∈ blockEvents scope body, (!e.isLabel) = true := fun e member => by
        rw [first e member]
        rfl
      have next : (caseEvents scope cases).takeWhile (fun e => !e.isLabel) = [] := by
        rcases cases with _ | ⟨⟨number, body⟩, cases⟩ <;> rfl
      rw [caseEvents, labelled, labelled_append first, ih others,
        List.takeWhile_append_of_pos unlabelled, next, List.append_nil,
        (block_tells scope body).used]
      rfl

end Cases

end RayScene.Wgsl
