namespace FeatureGate.Text

-- The characters with the Unicode property White_Space.
def isBlank (c : Char) : Bool :=
  let n := c.toNat
  (9 ≤ n && n ≤ 13) || n = 0x20 || n = 0x85 || n = 0xa0 || n = 0x1680 ||
    (0x2000 ≤ n && n ≤ 0x200a) || n = 0x2028 || n = 0x2029 || n = 0x202f || n = 0x205f || n = 0x3000

def trim (cs : List Char) : List Char :=
  ((cs.dropWhile isBlank).reverse.dropWhile isBlank).reverse

def wordsFrom (run : List Char) : List Char → List (List Char)
  | [] => if run.isEmpty then [] else [run]
  | c :: rest =>
      if isBlank c then
        if run.isEmpty then wordsFrom [] rest else run :: wordsFrom [] rest
      else wordsFrom (run ++ [c]) rest

def words (text : String) : List String := (wordsFrom [] text.toList).map String.ofList

def lower (cs : List Char) : List Char := cs.map Char.toLower

theorem wordsFrom_solid (run : List Char) (cs : List Char) (solid : ∀ c ∈ run, isBlank c = false) :
    ∀ word ∈ wordsFrom run cs, word ≠ [] ∧ ∀ c ∈ word, isBlank c = false := by
  induction cs generalizing run with
  | nil =>
      intro word present
      by_cases empty : run = []
      · simp [wordsFrom, empty] at present
      · have here : word = run := by simpa [wordsFrom, empty] using present
        exact here ▸ ⟨empty, solid⟩
  | cons c rest ih =>
      intro word present
      by_cases blank : isBlank c = true
      · by_cases empty : run = []
        · exact ih [] (by simp) word (by simpa [wordsFrom, blank, empty] using present)
        · rcases (by simpa [wordsFrom, blank, empty] using present : word = run ∨ word ∈ wordsFrom [] rest)
            with here | later
          · exact here ▸ ⟨empty, solid⟩
          · exact ih [] (by simp) word later
      · refine ih (run ++ [c]) ?_ word (by simpa [wordsFrom, blank] using present)
        intro d member
        rcases List.mem_append.1 member with old | new
        · exact solid d old
        · rw [List.mem_singleton.1 new]; simpa using blank

end FeatureGate.Text
