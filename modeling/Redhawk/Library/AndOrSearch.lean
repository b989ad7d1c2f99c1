import Mathlib.Data.Set.Finite.List
import Mathlib.Order.Preorder.Finite
import Mathlib.Data.Fintype.Order

/-!
Searches through nodes that each need all of their references, where a reference is met by one of its
candidates: what a search that ends finds, and that it ends just where it follows no cycle.
-/

namespace Redhawk.Library

open List Option

/-- `refs` is `none` where a node fails by itself, `candidates` where to look for them raises. An
exhaustive search looks at the other candidates after one that does. -/
structure AndOrSystem (Node Ref : Type) where
  refs : Node → Option (List Ref)
  candidates : Ref → Option (List Node)
  exhaustive : Bool

inductive Tree (Node : Type)
  | node (root : Node) (children : List (Tree Node))

def Tree.root {Node : Type} : Tree Node → Node
  | .node root _ => root

inductive Searched (Node : Type)
  | met (trees : List (Tree Node))
  | missed (trees : List (Tree Node))
  | raised (trees : List (Tree Node))

inductive Choice (Node : Type)
  | chosen (tree : Tree Node)
  | missed
  | raised

namespace AndOrSystem

variable {Node Ref : Type}

def choose (exhaustive : Bool) (search : Node → Option (Searched Node)) :
    List Node → Option (Choice Node)
  | [] => some .missed
  | node :: rest =>
    match search node with
    | none => none
    | some (.raised _) => some .raised
    | some (.missed _) => choose exhaustive search rest
    | some (.met trees) =>
      if exhaustive then
        match choose exhaustive search rest with
        | none => none
        | some .raised => some .raised
        | some _ => some (.chosen (.node node trees))
      else some (.chosen (.node node trees))

def meet (choose : Ref → Option (Choice Node)) : List Ref → List (Tree Node) → Option (Searched Node)
  | [], trees => some (.met trees)
  | ref :: rest, trees =>
    match choose ref with
    | none => none
    | some .raised => some (.raised trees)
    | some .missed => some (.missed trees)
    | some (.chosen tree) => meet choose rest (trees ++ [tree])

variable (system : AndOrSystem Node Ref)

def chooseFor (search : Node → Option (Searched Node)) (ref : Ref) : Option (Choice Node) :=
  match system.candidates ref with
  | none => some .raised
  | some list => choose system.exhaustive search list

/-- The search, as deep as the fuel allows; `none` where that is not enough. -/
def search : Nat → Node → Option (Searched Node)
  | 0, _ => none
  | fuel + 1, node =>
    match system.refs node with
    | none => some (.missed [])
    | some refs => meet (system.chooseFor (search fuel)) refs []

/-- The node and, for each of its references, some candidate resolve. -/
inductive Solves : Node → Prop
  | intro {node : Node} {refs : List Ref} (choice : Ref → Node) (own : system.refs node = some refs)
      (offered : ∀ ref ∈ refs, ∃ list, system.candidates ref = some list ∧ choice ref ∈ list)
      (each : ∀ ref ∈ refs, Solves (choice ref)) : Solves node

def Met (ref : Ref) : Prop :=
  ∃ list, system.candidates ref = some list ∧ ∃ node ∈ list, system.Solves node

def Tries (ref : Ref) (next : Node) : Prop :=
  ∃ earlier later, system.candidates ref = some (earlier ++ next :: later) ∧
    (system.exhaustive = false → ∀ other ∈ earlier, ¬system.Solves other)

def Follows (node next : Node) : Prop :=
  ∃ before ref after, system.refs node = some (before ++ ref :: after) ∧
    (∀ other ∈ before, system.Met other) ∧ system.Tries ref next

def Readable (within : Node → Prop) : Prop :=
  ∀ node refs, within node → system.refs node = some refs → ∀ ref ∈ refs,
    ∃ list, system.candidates ref = some list ∧ ∀ next ∈ list, within next

variable {system}

theorem solves_iff {node : Node} :
    system.Solves node ↔ ∃ refs, system.refs node = some refs ∧ ∀ ref ∈ refs, system.Met ref := by
  constructor
  · rintro ⟨choice, own, offered, each⟩
    refine ⟨_, own, fun ref member => ?_⟩
    obtain ⟨list, listed, inside⟩ := offered ref member
    exact ⟨list, listed, _, inside, each ref member⟩
  · rintro ⟨refs, own, met⟩
    have choices : ∀ ref, ∃ candidate, ref ∈ refs →
        (∃ list, system.candidates ref = some list ∧ candidate ∈ list) ∧ system.Solves candidate := by
      intro ref
      by_cases member : ref ∈ refs
      · obtain ⟨list, listed, candidate, inside, solves⟩ := met ref member
        exact ⟨candidate, fun _ => ⟨⟨list, listed, inside⟩, solves⟩⟩
      · exact ⟨node, fun other => absurd other member⟩
    choose choice found using choices
    exact ⟨choice, own, fun ref member => (found ref member).1, fun ref member => (found ref member).2⟩

end AndOrSystem

def Searched.Tells {Node : Type} (holds : Prop) : Searched Node → Prop
  | .met _ => holds
  | .missed _ => ¬holds
  | .raised _ => False

def Choice.Tells {Node : Type} (holds : Prop) : Choice Node → Prop
  | .chosen _ => holds
  | .missed => ¬holds
  | .raised => False

theorem Searched.tells_congr {Node : Type} {first second : Prop} (same : first ↔ second)
    {outcome : Searched Node} : outcome.Tells first ↔ outcome.Tells second := by
  rw [propext same]

theorem Choice.tells_congr {Node : Type} {first second : Prop} (same : first ↔ second)
    {choice : Choice Node} : choice.Tells first ↔ choice.Tells second := by
  rw [propext same]

namespace AndOrSystem

variable {Node Ref : Type} {system : AndOrSystem Node Ref}

section Sound

variable {exhaustive : Bool} {search : Node → Option (Searched Node)}

theorem choose_tells {list : List Node} {choice : Choice Node}
    (each : ∀ node ∈ list, ∀ outcome, search node = some outcome → outcome.Tells (system.Solves node))
    (ended : choose exhaustive search list = some choice) :
    choice.Tells (∃ node ∈ list, system.Solves node) := by
  induction list generalizing choice with
  | nil =>
      obtain rfl := some.inj ended
      exact fun ⟨node, member, _⟩ => not_mem_nil member
  | cons node rest ih =>
      obtain ⟨first, others⟩ := forall_mem_cons.mp each
      rw [choose] at ended
      cases found : search node with
      | none =>
          rw [found] at ended
          exact nomatch ended
      | some outcome =>
          have tells := first outcome found
          rw [found] at ended
          cases outcome with
          | raised trees => exact tells.elim
          | missed trees =>
              refine (Choice.tells_congr ?_).mp (ih others ended)
              rw [exists_mem_cons_iff]
              exact (or_iff_right tells).symm
          | met trees =>
              have holds : ∃ other ∈ node :: rest, system.Solves other :=
                ⟨node, mem_cons_self, tells⟩
              simp only at ended
              split at ended
              · split at ended
                · exact nomatch ended
                · rename_i raised
                  exact (ih others raised).elim
                · obtain rfl := some.inj ended
                  exact holds
              · obtain rfl := some.inj ended
                exact holds

theorem meet_tells {choose : Ref → Option (Choice Node)} {refs : List Ref} {trees : List (Tree Node)}
    {outcome : Searched Node}
    (each : ∀ ref ∈ refs, ∀ choice, choose ref = some choice → choice.Tells (system.Met ref))
    (ended : meet choose refs trees = some outcome) :
    outcome.Tells (∀ ref ∈ refs, system.Met ref) := by
  induction refs generalizing trees with
  | nil =>
      obtain rfl := some.inj ended
      exact nofun
  | cons ref rest ih =>
      obtain ⟨first, others⟩ := forall_mem_cons.mp each
      rw [meet] at ended
      cases found : choose ref with
      | none =>
          rw [found] at ended
          exact nomatch ended
      | some choice =>
          have tells := first choice found
          rw [found] at ended
          cases choice with
          | raised => exact tells.elim
          | missed =>
              obtain rfl := some.inj ended
              exact fun all => tells (all ref mem_cons_self)
          | chosen tree =>
              refine (Searched.tells_congr ?_).mp (ih others ended)
              rw [forall_mem_cons]
              exact (and_iff_right tells).symm

theorem chooseFor_tells {ref : Ref} {list : List Node} {choice : Choice Node}
    (listed : system.candidates ref = some list)
    (each : ∀ node ∈ list, ∀ outcome, search node = some outcome → outcome.Tells (system.Solves node))
    (ended : system.chooseFor search ref = some choice) : choice.Tells (system.Met ref) := by
  rw [chooseFor, listed] at ended
  refine (Choice.tells_congr ?_).mp (choose_tells each ended)
  rw [Met, listed]
  simp

theorem search_tells {within : Node → Prop} (readable : system.Readable within) {fuel : Nat}
    {node : Node} {outcome : Searched Node} (inside : within node)
    (ended : system.search fuel node = some outcome) : outcome.Tells (system.Solves node) := by
  induction fuel generalizing node outcome with
  | zero => exact nomatch ended
  | succ fuel ih =>
      rw [AndOrSystem.search] at ended
      cases own : system.refs node with
      | none =>
          rw [own] at ended
          obtain rfl := some.inj ended
          intro solves
          obtain ⟨refs, some, -⟩ := solves_iff.mp solves
          exact nomatch own.symm.trans some
      | some refs =>
          rw [own] at ended
          have solved : (∀ ref ∈ refs, system.Met ref) ↔ system.Solves node := by
            rw [solves_iff, own]
            simp
          refine (Searched.tells_congr solved).mp (meet_tells (fun ref member choice chosen => ?_) ended)
          obtain ⟨list, listed, below⟩ := readable node refs inside own ref member
          exact chooseFor_tells listed (fun next member _ => ih (below next member)) chosen

end Sound

section Ends

def Ends (system : AndOrSystem Node Ref) (node : Node) : Prop :=
  ∃ fuel, ∀ more ≥ fuel, system.search more node ≠ none

variable {within : Node → Prop}

theorem choose_ends (readable : system.Readable within) {ref : Ref} {earlier list : List Node}
    (listed : system.candidates ref = some (earlier ++ list)) (below : ∀ next ∈ list, within next)
    (passed : system.exhaustive = false → ∀ other ∈ earlier, ¬system.Solves other)
    (ends : ∀ next, system.Tries ref next → system.Ends next) :
    ∃ fuel, ∀ more ≥ fuel, choose system.exhaustive (system.search more) list ≠ none := by
  induction list generalizing earlier with
  | nil => exact ⟨0, fun _ _ => nofun⟩
  | cons node rest ih =>
      obtain ⟨first, firstEnds⟩ := ends node ⟨earlier, rest, listed, passed⟩
      by_cases later : system.exhaustive = true ∨ ¬system.Solves node
      · have behind : system.candidates ref = some ((earlier ++ [node]) ++ rest) := by
          rw [listed, append_assoc, singleton_append]
        obtain ⟨second, restEnds⟩ := ih behind (forall_mem_cons.mp below).2
            fun first other member => by
          rcases mem_append.mp member with before | last
          · exact passed first other before
          · obtain rfl := mem_singleton.mp last
            exact later.resolve_left (by simp [first])
        refine ⟨max first second, fun more enough => ?_⟩
        have found := firstEnds more (by omega)
        have others := restEnds more (by omega)
        rw [choose]
        cases ended : system.search more node with
        | none => exact absurd ended found
        | some outcome =>
            cases outcome with
            | raised trees => exact nofun
            | missed trees => exact others
            | met trees =>
                simp only
                split
                · split
                  · rename_i unfinished
                    exact absurd unfinished others
                  · exact nofun
                  · exact nofun
                · exact nofun
      · rw [not_or, not_not, Bool.not_eq_true] at later
        refine ⟨first, fun more enough => ?_⟩
        have found := firstEnds more enough
        rw [choose]
        cases ended : system.search more node with
        | none => exact absurd ended found
        | some outcome =>
            have tells := search_tells readable (below node mem_cons_self) ended
            cases outcome with
            | raised trees => exact tells.elim
            | missed trees => exact absurd later.2 tells
            | met trees =>
                rw [later.1]
                exact nofun

theorem meet_ends (readable : system.Readable within) {node : Node} (inside : within node)
    {before refs : List Ref} (own : system.refs node = some (before ++ refs))
    (passed : ∀ other ∈ before, system.Met other)
    (ends : ∀ next, system.Follows node next → system.Ends next) :
    ∃ fuel, ∀ more ≥ fuel, ∀ trees, meet (system.chooseFor (system.search more)) refs trees ≠ none := by
  induction refs generalizing before with
  | nil => exact ⟨0, fun _ _ _ => nofun⟩
  | cons ref rest ih =>
      obtain ⟨list, listed, below⟩ := readable node _ inside own ref (by simp)
      obtain ⟨first, firstEnds⟩ : ∃ fuel, ∀ more ≥ fuel, system.chooseFor (system.search more) ref ≠ none := by
        simp only [chooseFor, listed]
        refine @choose_ends _ _ _ _ readable ref [] list listed below (fun _ => nofun) ?_
        exact fun next tries => ends next ⟨before, ref, rest, own, passed, tries⟩
      obtain ⟨second, restEnds⟩ : ∃ fuel, ∀ more ≥ fuel, system.Met ref → ∀ trees,
          meet (system.chooseFor (system.search more)) rest trees ≠ none := by
        by_cases met : system.Met ref
        · have behind : system.refs node = some ((before ++ [ref]) ++ rest) := by
            rw [own, append_assoc, singleton_append]
          obtain ⟨fuel, ended⟩ := ih behind fun other member => by
            rcases mem_append.mp member with earlier | last
            · exact passed other earlier
            · exact mem_singleton.mp last ▸ met
          exact ⟨fuel, fun more enough _ => ended more enough⟩
        · exact ⟨0, fun _ _ holds => absurd holds met⟩
      refine ⟨max first second, fun more enough trees => ?_⟩
      have found := firstEnds more (by omega)
      rw [meet]
      cases chosen : system.chooseFor (system.search more) ref with
      | none => exact absurd chosen found
      | some choice =>
          have tells := chooseFor_tells listed (fun next member _ => search_tells readable
            (below next member)) chosen
          cases choice with
          | raised => exact nofun
          | missed => exact nofun
          | chosen tree => exact restEnds more (by omega) tells _

theorem ends_of_follows (readable : system.Readable within) {node : Node} (inside : within node)
    (ends : ∀ next, system.Follows node next → system.Ends next) : system.Ends node := by
  cases own : system.refs node with
  | none =>
      refine ⟨1, fun more enough => ?_⟩
      obtain ⟨fuel, rfl⟩ : ∃ fuel, more = fuel + 1 := ⟨more - 1, by omega⟩
      rw [AndOrSystem.search, own]
      exact nofun
  | some refs =>
      obtain ⟨first, ended⟩ := @meet_ends _ _ _ _ readable node inside [] refs own nofun ends
      refine ⟨first + 1, fun more enough => ?_⟩
      obtain ⟨fuel, rfl⟩ : ∃ fuel, more = fuel + 1 := ⟨more - 1, by omega⟩
      rw [AndOrSystem.search, own]
      exact ended fuel (by omega) []

theorem choose_tried {exhaustive : Bool} {search : Node → Option (Searched Node)}
    {earlier later : List Node} {next : Node}
    (each : ∀ node ∈ earlier, ∀ outcome, search node = some outcome → outcome.Tells (system.Solves node))
    (passed : exhaustive = false → ∀ other ∈ earlier, ¬system.Solves other)
    (ended : choose exhaustive search (earlier ++ next :: later) ≠ none) : search next ≠ none := by
  induction earlier with
  | nil =>
      intro none
      rw [nil_append, choose, none] at ended
      exact ended rfl
  | cons node rest ih =>
      rw [cons_append, choose] at ended
      obtain ⟨nodeTells, restTells⟩ := forall_mem_cons.mp each
      have behind := fun first => (forall_mem_cons.mp (passed first)).2
      cases found : search node with
      | none =>
          rw [found] at ended
          exact absurd rfl ended
      | some outcome =>
          have tells := nodeTells outcome found
          rw [found] at ended
          cases outcome with
          | raised trees => exact tells.elim
          | missed trees => exact ih restTells behind ended
          | met trees =>
              simp only at ended
              split at ended
              · refine ih restTells behind fun none => ?_
                rw [none] at ended
                exact ended rfl
              · rename_i first
                exact absurd tells (passed (Bool.eq_false_iff.mpr first) node mem_cons_self)

theorem meet_tried {choose : Ref → Option (Choice Node)} {before after : List Ref} {ref : Ref}
    {trees : List (Tree Node)}
    (each : ∀ other ∈ before, ∀ choice, choose other = some choice → choice.Tells (system.Met other))
    (passed : ∀ other ∈ before, system.Met other)
    (ended : meet choose (before ++ ref :: after) trees ≠ none) : choose ref ≠ none := by
  induction before generalizing trees with
  | nil =>
      intro none
      rw [nil_append, meet, none] at ended
      exact ended rfl
  | cons first rest ih =>
      obtain ⟨met, others⟩ := forall_mem_cons.mp passed
      obtain ⟨firstTells, restTells⟩ := forall_mem_cons.mp each
      rw [cons_append, meet] at ended
      cases found : choose first with
      | none =>
          rw [found] at ended
          exact absurd rfl ended
      | some choice =>
          have tells := firstTells choice found
          rw [found] at ended
          cases choice with
          | raised => exact tells.elim
          | missed => exact absurd met tells
          | chosen tree => exact ih restTells others ended

section

variable (readable : system.Readable within)

include readable

theorem Follows.stays {node next : Node} (inside : within node)
    (follows : system.Follows node next) : within next := by
  obtain ⟨before, ref, after, own, -, earlier, later, listed, -⟩ := follows
  obtain ⟨list, same, below⟩ := readable node _ inside own ref (by simp)
  obtain rfl := some.inj (listed.symm.trans same)
  exact below next (by simp)

theorem follows_ended {fuel : Nat} {node next : Node}
    (inside : within node) (ended : system.search (fuel + 1) node ≠ none)
    (follows : system.Follows node next) : system.search fuel next ≠ none := by
  obtain ⟨before, ref, after, own, met, earlier, later, listed, passed⟩ := follows
  have legible := readable node _ inside own
  rw [AndOrSystem.search, own] at ended
  have reached := meet_tried (fun other member choice chosen => by
    obtain ⟨list, otherListed, below⟩ := legible other (by simp [member])
    exact chooseFor_tells otherListed (fun next member _ => search_tells readable
      (below next member)) chosen) met ended
  obtain ⟨list, same, below⟩ := legible ref (by simp)
  obtain rfl := some.inj (listed.symm.trans same)
  rw [chooseFor, listed] at reached
  exact choose_tried (fun other member _ => search_tells readable (below other (by simp [member])))
    passed reached

theorem ends_iff_acc {node : Node} (inside : within node) :
    system.Ends node ↔ Acc (fun next node => system.Follows node next) node := by
  constructor
  · rintro ⟨fuel, ended⟩
    replace ended := ended fuel (Nat.le_refl _)
    induction fuel generalizing node with
    | zero => exact absurd rfl ended
    | succ fuel ih =>
        exact ⟨_, fun next follows =>
          ih (follows.stays readable inside) (follows_ended readable inside ended follows)⟩
  · intro accessible
    induction accessible with
    | intro node _ ih =>
        exact ends_of_follows readable inside fun next follows =>
          ih next follows (follows.stays readable inside)

theorem chooseFor_ends_iff {ref : Ref} {list : List Node}
    (listed : system.candidates ref = some list) (below : ∀ next ∈ list, within next) :
    (∃ fuel, ∀ more ≥ fuel, system.chooseFor (system.search more) ref ≠ none) ↔
      ∀ next, system.Tries ref next → system.Ends next := by
  simp only [chooseFor, listed]
  constructor
  · rintro ⟨fuel, ended⟩ next ⟨earlier, later, same, passed⟩
    obtain rfl := some.inj (listed.symm.trans same)
    refine ⟨fuel, fun more enough => choose_tried (fun other member _ => ?_) passed (ended more enough)⟩
    exact search_tells readable (below other (by simp [member]))
  · exact @choose_ends _ _ _ _ readable ref [] list listed below fun _ => nofun

end

end Ends

section Fuel

variable {first second : Node → Option (Searched Node)}

theorem choose_mono {exhaustive : Bool} {list : List Node} {choice : Choice Node}
    (more : ∀ node outcome, first node = some outcome → second node = some outcome)
    (ended : choose exhaustive first list = some choice) :
    choose exhaustive second list = some choice := by
  induction list generalizing choice with
  | nil => exact ended
  | cons node rest ih =>
      rw [choose] at ended ⊢
      cases found : first node with
      | none =>
          rw [found] at ended
          exact nomatch ended
      | some outcome =>
          rw [found] at ended
          rw [more node outcome found]
          cases outcome with
          | raised trees => exact ended
          | missed trees => exact ih ended
          | met trees =>
              cases exhaustive with
              | false => exact ended
              | true =>
                  cases behind : choose true first rest with
                  | none =>
                      rw [behind] at ended
                      exact nomatch ended
                  | some later =>
                      rw [behind] at ended
                      rw [ih behind]
                      exact ended

theorem meet_mono {one two : Ref → Option (Choice Node)} {refs : List Ref} {trees : List (Tree Node)}
    {outcome : Searched Node} (more : ∀ ref choice, one ref = some choice → two ref = some choice)
    (ended : meet one refs trees = some outcome) : meet two refs trees = some outcome := by
  induction refs generalizing trees with
  | nil => exact ended
  | cons ref rest ih =>
      rw [meet] at ended ⊢
      cases found : one ref with
      | none =>
          rw [found] at ended
          exact nomatch ended
      | some choice =>
          rw [found] at ended
          rw [more ref choice found]
          cases choice with
          | raised => exact ended
          | missed => exact ended
          | chosen tree => exact ih ended

theorem search_mono {fuel more : Nat} (le : fuel ≤ more) {node : Node} {outcome : Searched Node}
    (ended : system.search fuel node = some outcome) : system.search more node = some outcome := by
  induction fuel generalizing more node outcome with
  | zero => exact nomatch ended
  | succ fuel ih =>
      obtain ⟨more, rfl⟩ : ∃ less, more = less + 1 := ⟨more - 1, by omega⟩
      rw [AndOrSystem.search] at ended ⊢
      cases own : system.refs node with
      | none =>
          rw [own] at ended
          exact ended
      | some refs =>
          rw [own] at ended
          refine meet_mono (fun ref choice found => ?_) ended
          rw [chooseFor] at found ⊢
          cases listed : system.candidates ref with
          | none =>
              rw [listed] at found
              exact found
          | some list =>
              rw [listed] at found
              exact choose_mono (fun _ _ => ih (by omega)) found

end Fuel

section Trees

inductive Solution (system : AndOrSystem Node Ref) : Tree Node → Prop
  | node {root : Node} {refs : List Ref} {children : List (Tree Node)}
      (own : system.refs root = some refs)
      (answers : Forall₂ (fun ref child => ∃ list, system.candidates ref = some list ∧
        child.root ∈ list) refs children)
      (each : ∀ child ∈ children, Solution system child) : Solution system (.node root children)

theorem choose_solution {exhaustive : Bool} {search : Node → Option (Searched Node)}
    {list : List Node} {tree : Tree Node}
    (each : ∀ node trees, search node = some (.met trees) → system.Solution (.node node trees))
    (ended : choose exhaustive search list = some (.chosen tree)) :
    tree.root ∈ list ∧ system.Solution tree := by
  induction list with
  | nil => exact nomatch ended
  | cons node rest ih =>
      rw [choose] at ended
      cases found : search node with
      | none =>
          rw [found] at ended
          exact nomatch ended
      | some outcome =>
          rw [found] at ended
          cases outcome with
          | raised trees => exact nomatch ended
          | missed trees =>
              obtain ⟨member, solution⟩ := ih ended
              exact ⟨mem_cons_of_mem _ member, solution⟩
          | met trees =>
              have first : some (Choice.chosen (.node node trees)) = some (.chosen tree) := by
                simp only at ended
                split at ended
                · split at ended
                  · exact nomatch ended
                  · exact nomatch ended
                  · exact ended
                · exact ended
              obtain rfl := Choice.chosen.inj (some.inj first)
              exact ⟨mem_cons_self, each node trees found⟩

theorem meet_solution {choose : Ref → Option (Choice Node)} {refs : List Ref}
    {before trees : List (Tree Node)} (ended : meet choose refs before = some (.met trees)) :
    ∃ children, trees = before ++ children ∧
      Forall₂ (fun ref child => choose ref = some (.chosen child)) refs children := by
  induction refs generalizing before with
  | nil =>
      obtain rfl := Searched.met.inj (some.inj ended)
      exact ⟨[], (append_nil _).symm, .nil⟩
  | cons ref rest ih =>
      rw [meet] at ended
      cases found : choose ref with
      | none =>
          rw [found] at ended
          exact nomatch ended
      | some choice =>
          rw [found] at ended
          cases choice with
          | raised => exact nomatch ended
          | missed => exact nomatch ended
          | chosen tree =>
              obtain ⟨children, rfl, answers⟩ := ih ended
              exact ⟨tree :: children, by simp, .cons found answers⟩

theorem exists_answered {answers : Ref → Tree Node → Prop} {refs : List Ref}
    {children : List (Tree Node)} (all : Forall₂ answers refs children) {child : Tree Node}
    (member : child ∈ children) : ∃ ref, answers ref child := by
  induction all with
  | nil => exact absurd member not_mem_nil
  | cons first _ ih =>
      rcases mem_cons.mp member with rfl | later
      · exact ⟨_, first⟩
      · exact ih later

theorem search_solution {fuel : Nat} {node : Node} {trees : List (Tree Node)}
    (ended : system.search fuel node = some (.met trees)) : system.Solution (.node node trees) := by
  induction fuel generalizing node trees with
  | zero => exact nomatch ended
  | succ fuel ih =>
      rw [AndOrSystem.search] at ended
      cases own : system.refs node with
      | none =>
          rw [own] at ended
          exact nomatch ended
      | some refs =>
          rw [own] at ended
          obtain ⟨children, rfl, answers⟩ := meet_solution ended
          have chosen : ∀ ref child, system.chooseFor (system.search fuel) ref = some (.chosen child) →
              ∃ list, system.candidates ref = some list ∧ child.root ∈ list ∧ system.Solution child := by
            intro ref child found
            rw [chooseFor] at found
            cases listed : system.candidates ref with
            | none =>
                rw [listed] at found
                exact nomatch found
            | some list =>
                rw [listed] at found
                exact ⟨list, rfl, choose_solution (fun _ _ => ih) found⟩
          refine .node own (answers.imp fun ref child found => ?_) fun child member => ?_
          · obtain ⟨list, listed, inside, -⟩ := chosen ref child found
            exact ⟨list, listed, inside⟩
          · obtain ⟨ref, found⟩ := exists_answered answers member
            obtain ⟨list, -, -, solution⟩ := chosen ref child found
            exact solution

end Trees

end AndOrSystem

theorem not_of_acc {α : Type} {leads : α → α → Prop} {start : α} (accessible : Acc leads start) :
    ¬leads start start := by
  induction accessible with
  | intro start _ ih => exact fun self => ih start self self

theorem acc_iff_no_cycle {α : Type} {leads : α → α → Prop} {all : List α}
    (within : ∀ first next, leads first next → next ∈ all) {start : α} :
    Acc (fun next first => leads first next) start ↔
      ∀ other, Relation.ReflTransGen leads start other → ¬Relation.TransGen leads other other := by
  constructor
  · intro accessible other reached
    have below : Acc (fun next first => leads first next) other := by
      induction reached with
      | refl => exact accessible
      | tail _ step ih => exact Acc.inv ih step
    rw [← Relation.transGen_swap]
    exact not_of_acc below.transGen
  · intro acyclic
    have finite : {other | Relation.ReflTransGen leads start other}.Finite := by
      refine (finite_toSet (start :: all)).subset fun other reached => ?_
      cases reached with
      | refl => exact mem_cons_self
      | tail _ step => exact mem_cons_of_mem _ (within _ _ step)
    have : Finite {other // Relation.ReflTransGen leads start other} := finite.to_subtype
    let below : {other // Relation.ReflTransGen leads start other} →
        {other // Relation.ReflTransGen leads start other} → Prop :=
      fun next first => Relation.TransGen leads first.1 next.1
    have : Std.Irrefl below := ⟨fun other => acyclic other.1 other.2⟩
    have accessible := (Finite.wellFounded_of_trans_of_irrefl below).induction
      (C := fun other => Acc (fun next first => leads first next) other.1) ⟨start, .refl⟩
    exact accessible fun other ih =>
      ⟨_, fun next step => ih ⟨next, other.2.tail step⟩ (.single step)⟩

end Redhawk.Library
