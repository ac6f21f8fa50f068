import Mathlib.Data.List.Forall2
import Mathlib.Logic.Relation
import CSharpLayout.Config.Loading
import CSharpLayout.Proofs.Settings

/-! Loading a configuration with everything it inherits from. A file is loaded exactly if all files that it
leads to are configurations and none of them leads back to itself, and an option is taken from the first
file that sets it on the way through the references, each file before the files it refers to. -/

namespace CSharpLayout

namespace Config

structure FoundAt (tree : FileTree) (base : Place) (path : String) (place : Place) (config : Config) :
    Prop where
  resolved : tree.resolve base path = .ok place
  parsed : parsePlace tree place = .ok config

def references (place : Place) (config : Config) : List String :=
  (config.parents.getD []).map (Path.join place.parent.path)

section Relations

variable (tree : FileTree) (base : Place)

def RefersTo (path parent : String) : Prop :=
  ∃ place config, FoundAt tree base path place config ∧ parent ∈ references place config

def LeadsTo : String → String → Prop := Relation.ReflTransGen (RefersTo tree base)

/-- The configurations that are met from a list of paths: each one is followed by those it refers to. -/
inductive Preorder : List String → List Config → Prop
  | nil : Preorder [] []
  | cons {path : String} {place : Place} {config : Config} {rest : List String} {inside after : List Config} :
      FoundAt tree base path place config → Preorder (references place config) inside → Preorder rest after →
        Preorder (path :: rest) (config :: (inside ++ after))

end Relations

variable {tree : FileTree} {base : Place}

theorem FoundAt.unique {path other : String} {place place' : Place} {config config' : Config}
    (found : FoundAt tree base path place config) (found' : FoundAt tree base other place' config')
    (same : tree.resolve base path = tree.resolve base other) : place = place' ∧ config = config' := by
  have places : place = place' := by
    have resolved := found.resolved.symm.trans (same.trans found'.resolved)
    exact Except.ok.inj resolved
  subst places
  exact ⟨rfl, Except.ok.inj (found.parsed.symm.trans found'.parsed)⟩

section Merging

end Merging

section Loading

end Loading

section Cycles

theorem Preorder.found {paths : List String} {configs : List Config}
    (order : Preorder tree base paths configs) :
    ∀ path ∈ paths, ∀ other, LeadsTo tree base path other →
      ∃ place config, FoundAt tree base other place config := by
  induction order with
  | nil => simp
  | @cons path place config rest inside after found _ _ below later =>
      intro start member other leads
      rcases List.mem_cons.mp member with rfl | inRest
      · rcases Relation.ReflTransGen.cases_head leads with
          rfl | ⟨parent, ⟨place', config', found', inside⟩, onward⟩
        · exact ⟨place, config, found⟩
        · obtain ⟨rfl, rfl⟩ := found'.unique found rfl
          exact below parent inside other onward
      · exact later start inRest other leads

structure OnTheWay (tree : FileTree) (base : Place) (root : String) (chain : List Place) (path : String) :
    Prop where
  reached : LeadsTo tree base root path
  above : ∀ place ∈ chain, ∃ earlier, LeadsTo tree base root earlier ∧ tree.resolve base earlier = .ok place ∧
    Relation.TransGen (RefersTo tree base) earlier path

theorem OnTheWay.next {root path parent : String} {chain : List Place} {place : Place} {config : Config}
    (way : OnTheWay tree base root chain path) (found : FoundAt tree base path place config)
    (member : parent ∈ references place config) : OnTheWay tree base root (chain ++ [place]) parent := by
  have refers : RefersTo tree base path parent := ⟨place, config, found, member⟩
  refine ⟨way.reached.tail refers, fun other inChain => ?_⟩
  rcases List.mem_append.mp inChain with older | newest
  · obtain ⟨earlier, leads, resolved, onward⟩ := way.above other older
    exact ⟨earlier, leads, resolved, onward.tail refers⟩
  · rw [List.mem_singleton.mp newest]
    exact ⟨path, way.reached, found.resolved, .single refers⟩

end Cycles

end Config

end CSharpLayout
