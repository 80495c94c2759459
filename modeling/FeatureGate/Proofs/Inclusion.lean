import FeatureGate.Proofs.TableAgreement
import FeatureGate.Proofs.History
import FeatureGate.Proofs.KeyedWrites
import Mathlib.Data.List.Nodup

namespace FeatureGate
open Table Registry.History

namespace Assoc

theorem ofList_snoc (sets : List (String × α)) (last : String × α) :
    ofList (sets ++ [last]) = (ofList sets).put last.1 last.2 := by
  simp [ofList, putAll]

theorem names_ofList (sets : List (String × α)) : (ofList sets).names = (sets.map (·.1)).eraseDups := by
  induction sets using List.reverseRecOn with
  | nil => rfl
  | append_singleton sets last ih =>
      rw [ofList_snoc, names_put, ih, List.map_append]
      by_cases held : last.1 ∈ sets.map (·.1)
      · rw [if_pos (List.mem_eraseDups.mpr held)]
        exact (eraseDups_held held).symm
      · rw [if_neg fun there => held (List.mem_eraseDups.mp there)]
        exact (eraseDups_fresh held).symm

theorem nodup_ofList (sets : List (String × α)) : (ofList sets).names.Nodup := by
  induction sets using List.reverseRecOn with
  | nil => exact List.nodup_nil
  | append_singleton sets last ih =>
      rw [ofList_snoc, names_put]
      split
      · exact ih
      · rename_i fresh
        exact List.concat_eq_append ▸ ih.concat fresh

def lastSet? (name : String) (sets : List (String × α)) : Option α :=
  (sets.filter (·.1 = name)).getLast?.map (·.2)

theorem get?_ofList (sets : List (String × α)) (name : String) : (ofList sets).get? name = lastSet? name sets := by
  induction sets using List.reverseRecOn with
  | nil => rfl
  | append_singleton sets last ih =>
      rw [ofList_snoc, get?_put, ih, lastSet?, lastSet?, List.filter_append]
      by_cases same : last.1 = name
      · simp [same]
      · simp [same, Ne.symm same]

theorem pairs_put_fresh {m : Assoc α} (fresh : name ∉ m.names) (value : α) :
    (m.put name value).pairs = m.pairs ++ [(name, value)] :=
  replace_fresh fresh value

theorem mem_pairs {m : Assoc α} (distinct : m.names.Nodup) : (name, value) ∈ m.pairs ↔ m.get? name = some value :=
  ⟨lookup_of_mem distinct, lookup_mem⟩

theorem nodup_pairs {m : Assoc α} (distinct : m.names.Nodup) : m.pairs.Nodup :=
  List.Nodup.of_map _ distinct

end Assoc

namespace Table
variable {row asked other : Row}

namespace Row

theorem answers_named (distinct : asked.names.Nodup) :
    row.answers asked = true ↔ ∀ name ∈ asked.names, row.get? name = asked.get? name := by
  rw [answers_exact]
  constructor
  · intro holds name named
    obtain ⟨cell, listed, rfl⟩ := List.mem_map.mp named
    rw [holds cell listed, (Assoc.mem_pairs distinct).mp listed]
  · intro agrees cell listed
    rw [agrees cell.1 (List.mem_map_of_mem listed), (Assoc.mem_pairs distinct).mp listed]

theorem answers_self (distinct : row.names.Nodup) : row.answers row = true :=
  (answers_named distinct).mpr fun _ _ => rfl

-- Distinct names are not needed here: what is read is always among what is listed.
theorem answers_trans (one : row.answers asked = true) (two : asked.answers other = true) : row.answers other = true := by
  rw [answers_exact] at one two ⊢
  intro cell listed
  exact one cell (Assoc.lookup_mem (two cell listed))

theorem mem_of_answers (distinct : row.names.Nodup) :
    row.answers asked = true ↔ ∀ cell ∈ asked.pairs, cell ∈ row.pairs := by
  rw [answers_exact]
  exact forall₂_congr fun cell _ => (Assoc.mem_pairs distinct).symm

theorem answers_mutual (distinct : row.names.Nodup) (distinct' : asked.names.Nodup) :
    (row.answers asked = true ∧ asked.answers row = true) ↔ row.pairs.Perm asked.pairs := by
  rw [mem_of_answers distinct, mem_of_answers distinct',
    List.perm_ext_iff_of_nodup (Assoc.nodup_pairs distinct) (Assoc.nodup_pairs distinct')]
  constructor
  · exact fun both cell => ⟨both.2 cell, both.1 cell⟩
  · exact fun same => ⟨fun cell => (same cell).mpr, fun cell => (same cell).mp⟩

theorem answers_put (fresh : name ∉ asked.names) (value : Value) :
    row.answers (asked.put name value) = true ↔ row.answers asked = true ∧ row.get? name = some value := by
  rw [answers_exact, answers_exact, Assoc.pairs_put_fresh fresh]
  simp [or_imp, forall_and]

end Row

def Row.made (sets : List (String × Value)) : Row := Assoc.ofList sets

-- Such a row is a finite map in the order in which its columns first came, and to answer a
-- filter made likewise is to contain it.
structure Mapped (sets : List (String × Value)) : Prop where
  once : (Row.made sets).names.Nodup
  order : (Row.made sets).names = (sets.map (·.1)).eraseDups
  latest : ∀ name, (Row.made sets).get? name = Assoc.lastSet? name sets
  contains : ∀ asked, (Row.made sets).answers (Row.made asked) = true ↔
    ∀ name ∈ (Row.made asked).names, (Row.made sets).get? name = (Row.made asked).get? name
  itself : (Row.made sets).answers (Row.made sets) = true
  through : ∀ asked other, (Row.made sets).answers (Row.made asked) = true →
    (Row.made asked).answers (Row.made other) = true → (Row.made sets).answers (Row.made other) = true
  mutually : ∀ other, (Row.made sets).answers (Row.made other) = true ∧ (Row.made other).answers (Row.made sets) = true ↔
    (Row.made sets).pairs.Perm (Row.made other).pairs
  further : ∀ asked name value, name ∉ (Row.made asked).names →
    ((Row.made sets).answers ((Row.made asked).put name value) = true ↔
      (Row.made sets).answers (Row.made asked) = true ∧ (Row.made sets).get? name = some value)

theorem rows_mapped (sets : List (String × Value)) : Mapped sets where
  once := Assoc.nodup_ofList sets
  order := Assoc.names_ofList sets
  latest := Assoc.get?_ofList sets
  contains asked := Row.answers_named (Assoc.nodup_ofList asked)
  itself := Row.answers_self (Assoc.nodup_ofList sets)
  through _ _ := Row.answers_trans
  mutually other := Row.answers_mutual (Assoc.nodup_ofList sets) (Assoc.nodup_ofList other)
  further _ _ value fresh := Row.answers_put fresh value

example : (Row.made [("a", .integer 1), ("b", .text "x"), ("a", .integer 2)]).pairs =
    [("a", .integer 2), ("b", .text "x")] := by decide

end Table
end FeatureGate
