import FeatureGate.Resolution

namespace FeatureGate
open Table

-- A gate for events: parts that are asked one after the other. A part may look at
-- the world and change it, and it may die, but it has no error to report.
structure Rule (σ E : Type) where
  parts : List (E → Action σ Empty Bool)

namespace Rule
variable {σ E : Type}

def of (part : E → Action σ Empty Bool) : Rule σ E := ⟨[part]⟩

def always : Rule σ E := ⟨[]⟩

def and (first second : Rule σ E) : Rule σ E := ⟨first.parts ++ second.parts⟩

def clone (rule : Rule σ E) : Rule σ E := ⟨rule.parts⟩

def checkParts (event : E) : List (E → Action σ Empty Bool) → Action σ Empty Bool
  | [] => pure true
  | part :: rest => do if ← part event then checkParts event rest else return false

def check (rule : Rule σ E) (event : E) : Action σ Empty Bool := checkParts event rule.parts

-- What the tables say about the event's actor at the moment of asking. Without an
-- actor, and whenever the tables cannot be read, the answer is no.
def allows (store : Store σ) (plugin feature : String) (actor : Option Actor) : Action σ Empty Bool :=
  match actor with
  | none => pure false
  | some actor => fun s =>
      match Resolution.decide store actor plugin feature s with
      | (.done allowed, s') => (.done allowed, s')
      | (.failed _, s') => (.done false, s')
      | (.aborted, s') => (.aborted, s')

theorem and_assoc (a b c : Rule σ E) : (a.and b).and c = a.and (b.and c) := by
  simp [and, List.append_assoc]

theorem always_and (a : Rule σ E) : always.and a = a := rfl

theorem and_always (a : Rule σ E) : a.and always = a := by simp [and, always]

end Rule
end FeatureGate
