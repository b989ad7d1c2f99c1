import Redhawk.Applications.AllProperties

/-!
What `configure` of an application delivers and what it reports, and the round trip of the ids in both
directions.
-/

namespace Redhawk.Applications.Routing

open Redhawk.Library List

variable {Value : Type}

namespace Application

variable (app : Application Value)

def isNil (id : String) : Bool :=
  match app.properties.lookup id with
  | some external => external.component.isNone
  | none => false

def refuses (entry : AnyEntry Value) : Bool :=
  !(app.component (app.sentTo entry).1).takes (app.sentTo entry).2

def concerns (compId : String) (entry : AnyEntry Value) : Bool :=
  !app.isNil entry.1 && (app.sentTo entry).1 == compId

def refusedOf (configProperties : List (AnyEntry Value)) (asked : String × List (AnyEntry Value)) :
    List (AnyEntry Value) :=
  configProperties.filter fun entry => app.concerns asked.1 entry && app.refuses entry

/-- The entries that fail, as the request has them: those for which there is no component, then those that
are refused, in the order in which the components are called. -/
def failures (configProperties : List (AnyEntry Value)) (calls : Batch Value) : List (AnyEntry Value) :=
  configProperties.filter (fun entry => app.isNil entry.1) ++ calls.flatMap (app.refusedOf configProperties)

/-- No component is called twice, each is given its entries in their order, under the ids they have there,
and the entries that fail are reported as the request has them. -/
structure Configures (configProperties : List (AnyEntry Value)) : Prop where
  once : ((app.configure configProperties).calls.map Prod.fst).Nodup
  delivered : ∀ compId, Batches.entriesOf compId (app.configure configProperties).calls =
    (configProperties.filter (app.concerns compId)).map fun entry => (app.sentTo entry).2
  reported : (app.configure configProperties).answer = configureEnd configProperties.length
    (app.failures configProperties (app.configure configProperties).calls)

structure Deliverable (configProperties : List (AnyEntry Value)) : Prop where
  alive : (app.component app.assemblyController).alive = true
  reached : ∀ entry ∈ configProperties, app.isNil entry.1 = false →
    (app.component (app.target entry.1).1).alive = true
  named : ∀ entry ∈ configProperties, app.isNil entry.1 = false → app.refuses entry = true →
    (app.target entry.1).2 = entry.1

variable {app}

def Reaches (app : Application Value) (id : String) : Prop :=
  ∀ external compId, app.properties.lookup id = some external → external.component = some compId →
    (app.component compId).alive = true

theorem alive_of_reaches {id : String} (alive : (app.component app.assemblyController).alive = true)
    (reaches : app.Reaches id) (held : app.isNil id = false) :
    (app.component (app.target id).1).alive = true := by
  unfold isNil at held
  unfold target
  cases found : app.properties.lookup id with
  | none => exact alive
  | some external =>
      simp only [found] at held ⊢
      obtain ⟨compId, component⟩ := Option.isSome_iff_exists.mp (by simpa using held)
      simpa [component] using reaches external compId found component

theorem reaches_of_alive {id : String}
    (reached : app.isNil id = false → (app.component (app.target id).1).alive = true) :
    app.Reaches id := by
  intro external compId found component
  simpa [isNil, target, found, component] using reached

theorem routeConfigured_eq {entry : AnyEntry Value} (reaches : app.Reaches entry.1) :
    app.routeConfigured entry = .ok (if app.isNil entry.1 then .invalid entry
      else .batched (app.sentTo entry).1 (app.sentTo entry).2) := by
  unfold routeConfigured isNil sentTo target
  cases found : app.properties.lookup entry.1 with
  | none => rfl
  | some external =>
      cases held : external.component with
      | none => simp [sendOn, held]
      | some compId =>
          simp [sendOn_eq (identifier_eq_ok.mpr ⟨held, reaches external compId found held⟩), held]

theorem reaches_of_routeConfigured {entry : AnyEntry Value} {routed : Routed Value}
    (sent : app.routeConfigured entry = .ok routed) : app.Reaches entry.1 := by
  intro external compId found component
  simp only [routeConfigured, found, sendOn, component] at sent
  split at sent
  · cases sent
  · next other answers =>
      obtain ⟨same, alive⟩ := identifier_eq_ok.mp answers
      cases same
      exact alive

def kept (app : Application Value) (configProperties : List (AnyEntry Value)) : List (AnyEntry Value) :=
  configProperties.filter fun entry => !app.isNil entry.1

variable {configProperties : List (AnyEntry Value)}

theorem routeEach_configured (reaches : ∀ entry ∈ configProperties, app.Reaches entry.1) :
    routeEach app.routeConfigured configProperties [(app.assemblyController, [])] [] =
      .ok (app.batches (app.kept configProperties), configProperties.filter fun entry => app.isNil entry.1) := by
  rw [routeEach_eq fun entry member => routeConfigured_eq (reaches entry member)]
  rw [filterMap_sent (fun _ => rfl), filterMap_lost]
  simp [Routed.lost, batches, kept]

variable {invalidProperties : List (AnyEntry Value)}

theorem configureBatch_eq {batch calls : Batch Value}
    (alive : ∀ asked ∈ batch, (app.component asked.1).alive = true) :
    app.configureBatch batch calls invalidProperties = (calls ++ batch,
      .ok (invalidProperties ++ batch.flatMap fun asked =>
        asked.2.filter fun entry => !(app.component asked.1).takes entry)) := by
  induction batch generalizing calls invalidProperties with
  | nil => simp [configureBatch]
  | cons asked rest ih =>
      obtain ⟨here, later⟩ := forall_mem_cons.mp alive
      rw [configureBatch, Component.configure, if_pos here]
      simp only
      rw [ih later]
      simp

theorem alive_of_configureBatch {batch calls : Batch Value} {refused : List (AnyEntry Value)}
    (ended : (app.configureBatch batch calls invalidProperties).2 = .ok refused) :
    ∀ asked ∈ batch, (app.component asked.1).alive = true := by
  induction batch generalizing calls invalidProperties with
  | nil => simp
  | cons asked rest ih =>
      rw [configureBatch, Component.configure] at ended
      cases here : (app.component asked.1).alive with
      | false => simp [here] at ended
      | true =>
          rw [here, if_pos rfl] at ended
          exact forall_mem_cons.mpr ⟨here, ih ended⟩

theorem configureEnd_inj {length : Nat} {first second : List (AnyEntry Value)}
    (same : configureEnd length first = configureEnd length second) : first = second := by
  unfold configureEnd at same
  split at same
  · next empty =>
      split at same
      · next alsoEmpty => rw [List.isEmpty_iff.mp empty, List.isEmpty_iff.mp alsoEmpty]
      · split at same <;> cases same
  · split at same
    all_goals
      split at same
      · cases same
      · split at same <;> cases same
        rfl

theorem filter_kept (configProperties : List (AnyEntry Value)) (compId : String) :
    (app.kept configProperties).filter (fun entry => (app.sentTo entry).1 == compId) =
      configProperties.filter (app.concerns compId) := by
  rw [kept, filter_filter]
  exact filter_congr fun entry _ => Bool.and_comm _ _

theorem refused_of_batch {asked : String × List (AnyEntry Value)}
    (member : asked ∈ app.batches (app.kept configProperties)) :
    asked.2.filter (fun entry => !(app.component asked.1).takes entry) =
      (app.refusedOf configProperties asked).map fun entry => (app.sentTo entry).2 := by
  rw [(mem_batches member).2, filter_kept, filter_map, filter_filter, refusedOf]
  refine congrArg _ (filter_congr fun entry _ => ?_)
  rw [Bool.and_comm]
  cases concerned : app.concerns asked.1 entry with
  | false => rfl
  | true =>
      have same : (app.sentTo entry).1 = asked.1 := by
        rw [concerns, Bool.and_eq_true] at concerned
        exact beq_iff_eq.mp concerned.2
      simp [refuses, same]

section

variable (reaches : ∀ entry ∈ configProperties, app.Reaches entry.1)
  (alive : (app.component app.assemblyController).alive = true)

include reaches alive

theorem batches_alive :
    ∀ asked ∈ app.batches (app.kept configProperties), (app.component asked.1).alive = true := by
  intro asked member
  rcases (mem_batches member).1 with own | ⟨entry, inside, same⟩
  · exact own ▸ alive
  · obtain ⟨requested, held⟩ := mem_filter.mp inside
    exact same ▸ alive_of_reaches alive (reaches entry requested) (by simpa using held)

theorem configure_eq :
    app.configure configProperties = ⟨app.batches (app.kept configProperties),
      configureEnd configProperties.length (configProperties.filter (fun entry => app.isNil entry.1) ++
        ((app.batches (app.kept configProperties)).flatMap (app.refusedOf configProperties)).map
          fun entry => (app.sentTo entry).2)⟩ := by
  rw [configure, routeEach_configured reaches]
  simp only
  rw [configureBatch_eq (batches_alive reaches alive),
    flatMap_congr fun asked member => refused_of_batch member]
  simp [map_flatMap]

end

theorem reached_of_configure (ended : (app.configure configProperties).answer ≠ .systemException) :
    (app.component app.assemblyController).alive = true ∧ ∀ entry ∈ configProperties, app.Reaches entry.1 := by
  unfold configure at ended
  split at ended
  · exact absurd rfl ended
  next batch invalidProperties routed =>
    have reaches : ∀ entry ∈ configProperties, app.Reaches entry.1 := fun entry member =>
      have ⟨_, sent⟩ := routeEach_ok routed entry member
      reaches_of_routeConfigured sent
    rw [routeEach_configured reaches] at routed
    cases routed
    split at ended
    · exact absurd rfl ended
    next calls refused called =>
      obtain ⟨own, isOwn, same⟩ := exists_controller_batch app (app.kept configProperties)
      exact ⟨same ▸ alive_of_configureBatch (congrArg Prod.snd called) own isOwn, reaches⟩

theorem configureEnd_ne {length : Nat} : configureEnd length invalidProperties ≠ .systemException := by
  unfold configureEnd
  split
  · simp
  · split <;> simp

theorem delivered_batches (configProperties : List (AnyEntry Value)) (compId : String) :
    (app.batches (app.kept configProperties)).entriesOf compId =
      (configProperties.filter (app.concerns compId)).map fun entry => (app.sentTo entry).2 := by
  rw [batches, Batches.entriesOf_addAll (Batches.sorted_singleton _), filter_map, map_map,
    ← filter_kept]
  by_cases own : app.assemblyController = compId <;>
    simp [Batches.entriesOf, own, Function.comp_def]

theorem configures_iff (configProperties : List (AnyEntry Value)) :
    app.Configures configProperties ↔ app.Deliverable configProperties := by
  constructor
  · intro configures
    obtain ⟨alive, reaches⟩ := reached_of_configure (configures.reported ▸ configureEnd_ne)
    refine ⟨alive, fun entry member => alive_of_reaches alive (reaches entry member), ?_⟩
    have reported := configures.reported
    rw [configure_eq reaches alive] at reported
    have same := append_cancel_left (configureEnd_inj reported)
    have each := map_inj_left.mp (same.trans (map_id _).symm)
    intro entry member held refused
    have isKept : entry ∈ app.kept configProperties :=
      mem_filter.mpr ⟨member, by simpa using held⟩
    obtain ⟨asked, isAsked, key, -⟩ := exists_batch app isKept
    have listed : entry ∈ app.refusedOf configProperties asked :=
      mem_filter.mpr ⟨member, by simp [concerns, held, key, refused]⟩
    exact congrArg Prod.fst (each entry (mem_flatMap.mpr ⟨asked, isAsked, listed⟩))
  · intro deliverable
    have reaches : ∀ entry ∈ configProperties, app.Reaches entry.1 := fun entry member =>
      reaches_of_alive (deliverable.reached entry member)
    have result := configure_eq reaches deliverable.alive
    refine ⟨?_, ?_, ?_⟩
    · rw [result]
      exact (Batches.sorted_singleton _).addAll.nodup
    · rw [result]
      exact delivered_batches configProperties
    · rw [result, failures, map_congr_left, map_id]
      intro entry member
      obtain ⟨asked, -, inside⟩ := mem_flatMap.mp member
      obtain ⟨requested, refused⟩ := mem_filter.mp inside
      rw [Bool.and_eq_true, concerns, Bool.and_eq_true, Bool.not_eq_true'] at refused
      exact Prod.ext (deliverable.named entry requested refused.1.1 refused.2) rfl

/-- Both directions of the routing. -/
theorem routed_iff (app : Application Value) (configProperties : List (AnyEntry Value)) :
    app.QueriesAll ∧ app.Configures configProperties ↔ app.Translates ∧ app.Deliverable configProperties :=
  and_congr queriesAll_iff (configures_iff configProperties)

end Application

def tuner : Component Nat where
  alive := true
  propTable := [⟨"gain", some 3, true⟩]
  queryTimestamp := none
  takes _ := false
  unique := by decide

def controller : Component Nat where
  alive := true
  propTable := []
  queryTimestamp := none
  takes _ := true
  unique := by decide

def waveform : Application Nat where
  properties :=
    [("a", ⟨"gain", "readwrite", some "tuner"⟩), ("b", ⟨"gain", "readwrite", some "tuner"⟩)]
  assemblyController := "controller"
  component compId := if compId = "tuner" then tuner else controller
  sorted := by decide

/-- The second promotion comes back under the id of the first, and a value that is refused is reported
under an id that nobody has given. -/
theorem promoted_twice :
    (∃ result, waveform.query [] = .ok result ∧ result.map Prod.fst = ["a", "a"]) ∧
      ¬waveform.QueriesAll ∧ ¬waveform.Configures [("b", some 5)] := by
  have answered : waveform.query [] = .ok [("a", some 3), ("a", some 3)] := rfl
  refine ⟨⟨_, answered, rfl⟩, ?_, fun configures => ?_⟩
  · rintro ⟨result, found, ids, -⟩
    obtain rfl := Except.ok.inj (answered.symm.trans found)
    exact absurd ids (by decide)
  · have said : (waveform.configure [("b", some 5)]).answer =
        .invalidConfiguration "No matching external properties found" [("gain", some 5)] := rfl
    have expected : configureEnd 1 (waveform.failures [("b", some 5)]
        (waveform.configure [("b", some 5)]).calls) =
          .invalidConfiguration "No matching external properties found" [("b", some 5)] := rfl
    exact absurd (said.symm.trans (configures.reported.trans expected)) (by simp)

end Redhawk.Applications.Routing
