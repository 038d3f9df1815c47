/-
  Look-up by name
  ===============
  A table holds for each name the class that was registered last under it (`ClassTable.Registers`).
  A name that is not registered is looked up without its leading brackets, as few of them as
  leave a registered name, and the answer is the class of arrays of arrays, and so on, of what is
  found there (`ClassTable.lookup_of_brackets`).

  Two facts hold this together.  An array class is called by a bracket and the name of its elements,
  under whichever class it was made (`Hierarchy.Assembled.name_eq`), so an answer has the name that
  was asked for.  And array classes are found through the class that they are arrays of, so it makes
  no difference to them that another class of the same name was replaced in the table.
-/
import ManagedRuntime.Proofs.Class.ArrayClasses

namespace ManagedRuntime

/-! ### Names of array classes -/

namespace Hierarchy

variable {classes after old new : Hierarchy} {object id array element : ClassId} {cls : Class}

/-- The hierarchies that come about by building classes and making array classes, each of these
    under a class that exists. -/
inductive Assembled : Hierarchy → Prop where
  | empty : Assembled {}
  | build {classes after : Hierarchy} {blueprint : Blueprint} {id : ClassId} :
      Assembled classes → classes.build blueprint = .ok (id, after) → Assembled after
  | primitiveArray {classes : Hierarchy} {object : ClassId} (kind : Primitive) :
      Assembled classes → object < classes.size →
      Assembled (classes.push (classes.arrayDescriptor object kind.name (.primitive kind))).2
  | arrayOf {classes : Hierarchy} {object element : ClassId} :
      Assembled classes → object < classes.size → element < classes.size →
      Assembled (classes.arrayOf object element).2

theorem Assembled.made (h : classes.Assembled) : classes.Made := by
  induction h with
  | empty => exact .empty
  | build _ hbuild ih => exact .build ih hbuild
  | primitiveArray kind _ hobject ih => exact .pushArray kind.name (.primitive kind) ih hobject
  | arrayOf _ hobject _ ih => exact ih.arrayOf hobject _

theorem MadeUnder.assembled (h : classes.MadeUnder object) : classes.Assembled := by
  induction h with
  | empty => exact .empty
  | build _ hbuild ih => exact .build ih hbuild
  | primitiveArray kind _ hobject ih => exact .primitiveArray kind ih hobject
  | arrayOf _ hobject helement ih => exact .arrayOf ih hobject helement

theorem ArraysAdded.assembled (h : classes.ArraysAdded object after) (hclasses : classes.Assembled)
    (hobject : object < classes.size) : after.Assembled := by
  induction h with
  | refl => exact hclasses
  | arrayOf hadded helement ih =>
    exact .arrayOf ih (Nat.lt_of_lt_of_le hobject hadded.grown.size_le) helement

theorem Assembled.makePrimitiveArrays (h : classes.Assembled) (hobject : object < classes.size)
    (kinds : List Primitive) :
    (ClassTable.makePrimitiveArrays object kinds classes).2.Assembled := by
  induction kinds generalizing classes with
  | nil => exact h
  | cons kind kinds ih =>
    apply ih (h.primitiveArray kind hobject)
    rw [size_push]
    exact Nat.lt_succ_of_lt hobject

theorem name_of_push (hpush : after.classes = classes.classes.push cls) :
    after.name id = if id = classes.size then cls.name else classes.name id := by
  rw [name, get?_of_push hpush]
  by_cases hid : id = classes.size
  · rw [if_pos hid, if_pos hid]
  · rw [if_neg hid, if_neg hid, name]

theorem Extends.name_eq (h : old.Extends new) (hid : id < old.size) :
    new.name id = old.name id := by
  rw [name, h.get?_eq id hid, name]

/-- Array classes come after their elements and are called after them. -/
def NamesArrays (classes : Hierarchy) : Prop :=
  ∀ id element, classes.elementClass? id = some element →
    element < id ∧ classes.name id = "[" ++ classes.name element

theorem NamesArrays.push (h : classes.NamesArrays)
    (hpush : after.classes = classes.classes.push cls)
    (hcls : ∀ element, cls.elementClass? = some element →
      element < classes.size ∧ cls.name = "[" ++ classes.name element) : after.NamesArrays := by
  intro id element helement
  rw [elementClass?_of_push hpush] at helement
  rw [name_of_push hpush, name_of_push hpush]
  split at helement
  · rename_i hnew
    obtain ⟨hlt, hname⟩ := hcls element helement
    rw [if_pos hnew, if_neg (Nat.ne_of_lt hlt), hnew]
    exact ⟨hlt, hname⟩
  · rename_i hold
    obtain ⟨hlt, hname⟩ := h id element helement
    have hid := lt_size_of_elementClass? helement
    rw [if_neg hold, if_neg (Nat.ne_of_lt (Nat.lt_trans hlt hid))]
    exact ⟨hlt, hname⟩

theorem Assembled.namesArrays (h : classes.Assembled) : classes.NamesArrays := by
  induction h with
  | empty =>
    intro id element helement
    simp [elementClass?, get?] at helement
  | @build classes after blueprint built _ hbuild ih =>
    have houtcome := blueprint.outcome_build classes
    rw [hbuild] at houtcome
    cases houtcome with
    | built cls _ _ _ hafter _ hshape =>
      apply ih.push hafter
      intro element helement
      rw [Blueprint.exactShape] at hshape
      split at hshape <;> simp [Class.elementClass?, hshape] at helement
  | primitiveArray kind _ _ ih =>
    apply ih.push rfl
    intro element helement
    cases helement
  | @arrayOf classes object element _ _ hasked ih =>
    unfold Hierarchy.arrayOf
    split
    · exact ih
    · apply ih.push rfl
      rintro _ ⟨⟩
      exact ⟨hasked, rfl⟩

/-- An array class is called by a bracket and the name of its elements. -/
theorem Assembled.name_eq (h : classes.Assembled)
    (harray : classes.arrayClass? element = some array) :
    classes.name array = "[" ++ classes.name element :=
  (h.namesArrays array element (elementClass?_of_arrayClass? harray)).2

end Hierarchy

namespace ClassTable

variable {classes before after : Hierarchy} {table : ClassTable} {registered : List ClassId}
variable {id : ClassId} {name : String} {letters rest : List Char}

/-! ### What is registered -/

/-- The last of some classes that has a name. -/
def lastNamed? (classes : Hierarchy) (registered : List ClassId) (name : String) : Option ClassId :=
  registered.reverse.find? (classes.name · == name)

theorem lastNamed?_concat (registered : List ClassId) (id : ClassId) :
    lastNamed? classes (registered ++ [id]) name =
      if classes.name id = name then some id else lastNamed? classes registered name := by
  rw [lastNamed?, List.reverse_append, List.reverse_singleton, List.singleton_append,
    List.find?_cons, lastNamed?]
  by_cases hname : classes.name id = name
  · rw [if_pos hname, beq_iff_eq.2 hname]
  · rw [if_neg hname, beq_eq_false_iff_ne.2 hname]

theorem exists_of_lastNamed? (h : lastNamed? classes registered name = some id) :
    id ∈ registered ∧ classes.name id = name :=
  ⟨List.mem_reverse.1 (List.mem_of_find?_eq_some h), by simpa using List.find?_some h⟩

theorem lastNamed?_extend (hgrown : before.Extends after)
    (hregistered : ∀ id ∈ registered, id < before.size) :
    lastNamed? after registered name = lastNamed? before registered name := by
  rw [lastNamed?, lastNamed?, ← List.head?_filter, ← List.head?_filter]
  apply congrArg List.head?
  apply List.filter_congr
  intro id hid
  rw [hgrown.name_eq (hregistered id (List.mem_reverse.1 hid))]

/-- The table holds for each name the class that was registered last under it. -/
def Registers (table : ClassTable) (classes : Hierarchy) (registered : List ClassId) : Prop :=
  ∀ name, table.names[name]? = lastNamed? classes registered name

theorem Registers.register (h : table.Registers classes registered) (id : ClassId) :
    (table.register classes id).Registers classes (registered ++ [id]) := by
  intro name
  rw [ClassTable.register, Std.TreeMap.getElem?_insert, lastNamed?_concat, h name]
  by_cases hname : classes.name id = name
  · rw [if_pos hname, if_pos (Std.compare_eq_iff_eq.2 hname)]
  · rw [if_neg hname, if_neg (fun heq => hname (Std.compare_eq_iff_eq.1 heq))]

theorem Registers.foldl_register (h : table.Registers classes registered) (ids : List ClassId) :
    (ids.foldl (·.register classes ·) table).Registers classes (registered ++ ids) := by
  induction ids generalizing table registered with
  | nil =>
    rw [List.append_nil]
    exact h
  | cons id ids ih =>
    have hrest := ih (h.register id)
    rwa [List.append_assoc, List.singleton_append] at hrest

theorem Registers.extend (h : table.Registers before registered) (hgrown : before.Extends after)
    (hregistered : ∀ id ∈ registered, id < before.size) : table.Registers after registered := by
  intro name
  rw [h name, lastNamed?_extend hgrown hregistered]

/-- The classes that a table knows by itself, in the order in which it registers them. -/
def known (table : ClassTable) : List ClassId :=
  [table.core.object, table.core.nullReference, table.core.indexOutOfBounds] ++
    table.primitiveArrays

theorem registers_new (core : CoreClasses) (classes : Hierarchy) :
    (new core classes).1.Registers (new core classes).2 (new core classes).1.known := by
  have hempty :
      Registers { core, primitiveArrays := (new core classes).1.primitiveArrays, names := ∅ }
        (new core classes).2 [] := by
    intro name
    exact Std.TreeMap.getElem?_emptyc
  have hknown := hempty.foldl_register (new core classes).1.known
  rw [known, core_new] at hknown ⊢
  rw [primitiveArrays_new] at hknown ⊢
  exact hknown

/-! ### Looking up -/

theorem lookup_of_registered (h : table.names[String.ofList letters]? = some id) :
    table.lookup classes letters = some id := by
  cases letters with
  | nil => exact h
  | cons letter letters =>
    rw [lookup, h]

theorem lookup_bracket (h : table.names[String.ofList ('[' :: letters)]? = none) :
    table.lookup classes ('[' :: letters) =
      (table.lookup classes letters).bind classes.arrayClass? := by
  rw [lookup, h]
  exact if_pos rfl

/-- As few brackets are taken off as leave a registered name. -/
theorem lookup_of_brackets {depth : Nat} (hrest : table.names[String.ofList rest]? = some id)
    (hnone : ∀ more < depth,
      table.names[String.ofList (List.replicate (more + 1) '[' ++ rest)]? = none) :
    table.lookup classes (List.replicate depth '[' ++ rest) = classes.nestedArray? id depth := by
  induction depth with
  | zero => exact lookup_of_registered hrest
  | succ depth ih =>
    have hlast := hnone depth (Nat.lt_succ_self depth)
    rw [List.replicate_succ, List.cons_append] at hlast ⊢
    rw [lookup_bracket hlast, ih fun more hmore => hnone more (Nat.lt_succ_of_lt hmore)]
    rfl

/-- Nothing is found where no number of brackets leaves a registered name. -/
theorem lookup_of_unknown (h : ∀ depth rest, letters = List.replicate depth '[' ++ rest →
    table.names[String.ofList rest]? = none) : table.lookup classes letters = none := by
  induction letters with
  | nil => exact h 0 [] rfl
  | cons letter letters ih =>
    rw [lookup, h 0 (letter :: letters) rfl]
    dsimp only
    split
    · rename_i hbracket
      rw [ih, Option.bind_none]
      intro depth rest hletters
      apply h (depth + 1) rest
      rw [hbracket, hletters]
      rfl
    · rfl

/-- What is found was there before and has the name that was asked for. -/
theorem Registers.sound_lookup (h : table.Registers classes registered)
    (hclasses : classes.Assembled) (hregistered : ∀ id ∈ registered, id < classes.size)
    (hfound : table.lookup classes letters = some id) :
    id < classes.size ∧ (classes.name id).toList = letters := by
  have hnamed : ∀ letters id, table.names[String.ofList letters]? = some id →
      id < classes.size ∧ (classes.name id).toList = letters := by
    intro letters id hid
    rw [h] at hid
    obtain ⟨hmem, hname⟩ := exists_of_lastNamed? hid
    rw [hname, String.toList_ofList]
    exact ⟨hregistered id hmem, rfl⟩
  induction letters generalizing id with
  | nil => exact hnamed [] id hfound
  | cons letter letters ih =>
    rw [lookup] at hfound
    split at hfound
    · rename_i hid
      cases hfound
      exact hnamed (letter :: letters) id hid
    · split at hfound
      · rename_i hbracket
        obtain ⟨element, helement, harray⟩ := Option.bind_eq_some_iff.1 hfound
        obtain ⟨-, hletters⟩ := ih helement
        refine ⟨Hierarchy.lt_size_of_arrayClass? harray, ?_⟩
        rw [hclasses.name_eq harray, String.toList_append, hletters, hbracket]
        rfl
      · cases hfound

/-! ### Answers -/

/-- How a table answers, by the classes that were registered with it.  Answers are classes that
    exist: a look-up makes none. -/
structure LooksUp (table : ClassTable) (classes : Hierarchy) (registered : List ClassId) :
    Prop where
  sound : ∀ name id, table.get? classes name = some id → id < classes.size ∧ classes.name id = name
  last : ∀ name id, lastNamed? classes registered name = some id → table.get? classes name = some id
  /-- With `depth` the least number of brackets without which the name is registered, what is
      found is the class of arrays, `depth` times over, of what is registered there, if all of
      these were made. -/
  derived : ∀ name rest depth id, name.toList = List.replicate depth '[' ++ rest.toList →
    lastNamed? classes registered rest = some id →
    (∀ fewer < depth, lastNamed? classes registered
      (String.ofList (name.toList.drop fewer)) = none) →
    table.get? classes name = classes.nestedArray? id depth
  unknown : ∀ name, (∀ rest depth, name.toList = List.replicate depth '[' ++ rest.toList →
    lastNamed? classes registered rest = none) → table.get? classes name = none
  /-- An array class is found if its element class is, unless its name was given to another
      class. -/
  array : ∀ id array, table.get? classes (classes.name id) = some id →
    classes.arrayClass? id = some array →
    (∀ other, lastNamed? classes registered (classes.name array) = some other → other = array) →
    table.get? classes (classes.name array) = some array
  nested : ∀ id depth array, table.get? classes (classes.name id) = some id →
    (∀ times inner, classes.nestedArray? id times = some inner → ∀ other,
      lastNamed? classes registered (classes.name inner) = some other → other = inner) →
    classes.nestedArray? id depth = some array →
    table.get? classes (classes.name array) = some array

theorem Registers.get?_array (h : table.Registers classes registered) (hclasses : classes.Assembled)
    {array : ClassId} (hid : table.get? classes (classes.name id) = some id)
    (harray : classes.arrayClass? id = some array)
    (hother : ∀ other, lastNamed? classes registered (classes.name array) = some other →
      other = array) : table.get? classes (classes.name array) = some array := by
  have hletters : (classes.name array).toList = '[' :: (classes.name id).toList := by
    rw [hclasses.name_eq harray, String.toList_append]
    rfl
  cases hfound : lastNamed? classes registered (classes.name array) with
  | some other =>
    rw [hother other hfound] at hfound
    apply lookup_of_registered
    rw [String.ofList_toList, h, hfound]
  | none =>
    have hnone : table.names[String.ofList ('[' :: (classes.name id).toList)]? = none := by
      rw [← hletters, String.ofList_toList, h, hfound]
    rw [get?, hletters, lookup_bracket hnone]
    rw [get?] at hid
    rw [hid, Option.bind_some, harray]

theorem Registers.looksUp (h : table.Registers classes registered) (hclasses : classes.Assembled)
    (hregistered : ∀ id ∈ registered, id < classes.size) : table.LooksUp classes registered where
  sound name id hfound := by
    obtain ⟨hlt, hname⟩ := h.sound_lookup hclasses hregistered hfound
    exact ⟨hlt, String.toList_inj.1 hname⟩
  last name id hlast := by
    apply lookup_of_registered
    rw [String.ofList_toList, h, hlast]
  derived name rest depth id hname hrest hnone := by
    rw [get?, hname]
    apply lookup_of_brackets
    · rw [String.ofList_toList, h, hrest]
    · intro more hmore
      have hleft := hnone (depth - (more + 1)) (by omega)
      rw [hname, List.drop_append_of_le_length (by rw [List.length_replicate]; omega),
        List.drop_replicate] at hleft
      rw [h, ← hleft, show depth - (depth - (more + 1)) = more + 1 by omega]
  unknown name hnone := by
    apply lookup_of_unknown
    intro depth rest hname
    rw [h]
    exact hnone (String.ofList rest) depth (by rw [hname, String.toList_ofList])
  array id array hid harray hother := h.get?_array hclasses hid harray hother
  nested id depth array hid hother hnested := by
    induction depth generalizing array with
    | zero =>
      cases hnested
      exact hid
    | succ depth ih =>
      obtain ⟨inner, hinner, harray⟩ := Option.bind_eq_some_iff.1 hnested
      exact h.get?_array hclasses (ih inner hinner) harray (hother (depth + 1) array hnested)

end ClassTable

end ManagedRuntime
