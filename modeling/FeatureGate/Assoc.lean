namespace FeatureGate

-- Values under names, in the order in which the names first came. Built with
-- `put` only, no name occurs twice; a list given by hand may repeat one, and
-- then the first occurrence is the one that is read and replaced.
structure Assoc (α : Type) where
  pairs : List (String × α)
deriving DecidableEq, Repr

namespace Assoc

def lookup (name : String) : List (String × α) → Option α
  | [] => none
  | (held, value) :: rest => if held = name then some value else lookup name rest

def replace (name : String) (value : α) : List (String × α) → List (String × α)
  | [] => [(name, value)]
  | (held, old) :: rest =>
      if held = name then (held, value) :: rest else (held, old) :: replace name value rest

def empty : Assoc α := ⟨[]⟩

def get? (m : Assoc α) (name : String) : Option α := lookup name m.pairs

def put (m : Assoc α) (name : String) (value : α) : Assoc α := ⟨replace name value m.pairs⟩

def erase (m : Assoc α) (name : String) : Assoc α := ⟨m.pairs.filter (·.1 != name)⟩

def putAll (m : Assoc α) (pairs : List (String × α)) : Assoc α :=
  pairs.foldl (fun m pair => m.put pair.1 pair.2) m

def ofList (pairs : List (String × α)) : Assoc α := empty.putAll pairs

def names (m : Assoc α) : List String := m.pairs.map (·.1)

def values (m : Assoc α) : List α := m.pairs.map (·.2)

def size (m : Assoc α) : Nat := m.pairs.length

def isEmpty (m : Assoc α) : Bool := m.pairs.isEmpty

def includes [DecidableEq α] (m part : Assoc α) : Bool :=
  part.pairs.all fun pair => m.get? pair.1 = some pair.2

theorem lookup_replace (pairs : List (String × α)) (name other : String) (value : α) :
    lookup other (replace name value pairs) =
      if other = name then some value else lookup other pairs := by
  induction pairs with
  | nil => by_cases h : name = other <;> simp [replace, lookup, h, eq_comm]
  | cons pair rest ih =>
      obtain ⟨held, old⟩ := pair
      by_cases same : held = name
      · subst same
        by_cases h : other = held
        · simp [replace, lookup, h]
        · have away : ¬ held = other := fun e => h e.symm
          simp only [replace, lookup, if_true, if_neg away, if_neg h]
      · by_cases h : held = other
        · subst h; simp [replace, lookup, same]
        · simp [replace, lookup, same, h, ih]

@[simp] theorem get?_put (m : Assoc α) (name other : String) (value : α) :
    (m.put name value).get? other = if other = name then some value else m.get? other :=
  lookup_replace m.pairs name other value

@[simp] theorem get?_empty (name : String) : (empty : Assoc α).get? name = none := rfl

theorem map_fst_replace (pairs : List (String × α)) (name : String) (value : α) :
    (replace name value pairs).map (·.1) =
      if name ∈ pairs.map (·.1) then pairs.map (·.1) else pairs.map (·.1) ++ [name] := by
  induction pairs with
  | nil => simp [replace]
  | cons pair rest ih =>
      obtain ⟨held, old⟩ := pair
      by_cases same : held = name
      · simp [replace, same]
      · have other : name ≠ held := fun h => same h.symm
        simp only [replace, same, if_false, List.map_cons, ih, List.mem_cons, other, false_or]
        split <;> simp_all

theorem names_put (m : Assoc α) (name : String) (value : α) :
    (m.put name value).names = if name ∈ m.names then m.names else m.names ++ [name] :=
  map_fst_replace m.pairs name value

theorem lookup_mem {pairs : List (String × α)} (found : lookup name pairs = some value) : (name, value) ∈ pairs := by
  induction pairs with
  | nil => cases found
  | cons pair rest ih =>
      obtain ⟨held, old⟩ := pair
      by_cases same : held = name
      · simp only [lookup, if_pos same, Option.some.injEq] at found
        simp [same, found]
      · simp only [lookup, if_neg same] at found
        exact List.mem_cons_of_mem _ (ih found)

theorem lookup_of_mem {pairs : List (String × α)} (distinct : (pairs.map (·.1)).Nodup)
    (member : (name, value) ∈ pairs) : lookup name pairs = some value := by
  induction pairs with
  | nil => cases member
  | cons pair rest ih =>
      obtain ⟨held, old⟩ := pair
      simp only [List.map_cons, List.nodup_cons] at distinct
      rcases List.mem_cons.mp member with here | there
      · cases here
        simp [lookup]
      · have other : held ≠ name := fun same => distinct.1 (same ▸ List.mem_map_of_mem (f := (·.1)) there)
        simp only [lookup, if_neg other]
        exact ih distinct.2 there

theorem put_held {m : Assoc α} (held : m.get? name = some value) : m.put name value = m := by
  have replaced : ∀ pairs : List (String × α), lookup name pairs = some value →
      replace name value pairs = pairs := by
    intro pairs
    induction pairs with
    | nil => intro found; cases found
    | cons pair rest ih =>
        obtain ⟨key, old⟩ := pair
        intro found
        by_cases same : key = name
        · simp only [lookup, if_pos same, Option.some.injEq] at found
          simp [replace, same, found]
        · simp only [lookup, if_neg same] at found
          simp [replace, same, ih found]
  exact congrArg Assoc.mk (replaced m.pairs held)

end Assoc
end FeatureGate
