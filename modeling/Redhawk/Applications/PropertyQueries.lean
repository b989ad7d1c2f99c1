import Redhawk.Applications.ExternalProperties

/-!
What `query` of an application returns, of a list and of an empty one.
-/

namespace Redhawk.Applications.Routing

open Redhawk.Library Batches Routed List

variable {Value : Type}

section Routes

variable {Item : Type} {route : Item → Except (QueryRaised Value) (Routed Value)}

def Routed.sent : Routed Value → Option (String × AnyEntry Value)
  | .batched compId entry => some (compId, entry)
  | .skipped | .invalid _ => none

def Routed.lost : Routed Value → Option (AnyEntry Value)
  | .invalid entry => some entry
  | .skipped | .batched _ _ => none

variable {items : List Item}

theorem routeEach_eq {goes : Item → Routed Value}
    (routes : ∀ item ∈ items, route item = .ok (goes item)) (batch : Batch Value)
    (invalidProperties : List (AnyEntry Value)) :
    routeEach route items batch invalidProperties =
      .ok (batch.addAll (items.filterMap fun item => (goes item).sent),
        invalidProperties ++ items.filterMap fun item => (goes item).lost) := by
  induction items generalizing batch invalidProperties with
  | nil => simp [routeEach, addAll]
  | cons item rest ih =>
      obtain ⟨here, later⟩ := forall_mem_cons.mp routes
      rw [routeEach, here]
      cases routed : goes item with
      | skipped => simp [ih later, routed, sent, lost]
      | invalid entry => simp [ih later, routed, sent, lost]
      | batched compId entry => simp [ih later, routed, sent, lost, addAll]

theorem filterMap_sent {drop : Item → Prop} [DecidablePred drop] {instead : Item → Routed Value}
    {send : Item → String × AnyEntry Value} (dropped : ∀ item, (instead item).sent = none)
    (items : List Item) :
    (items.filterMap fun item => sent (if drop item then instead item
      else .batched (send item).1 (send item).2)) = (items.filter fun item => ¬drop item).map send := by
  induction items with
  | nil => rfl
  | cons item rest ih =>
      by_cases here : drop item
      · simpa [here, dropped] using ih
      · simpa [here, sent] using ih

theorem filterMap_lost {drop : Item → Prop} [DecidablePred drop] {instead : Item → Routed Value}
    {send : Item → String × AnyEntry Value} (items : List Item) :
    (items.filterMap fun item => lost (if drop item then instead item
      else .batched (send item).1 (send item).2)) =
        (items.filter drop).filterMap fun item => (instead item).lost := by
  induction items with
  | nil => rfl
  | cons item rest ih =>
      by_cases here : drop item
      · rw [filter_cons_of_pos (by simpa using here), filterMap_cons, filterMap_cons, ih, if_pos here]
      · rw [filter_cons_of_neg (by simpa using here), filterMap_cons, ih, if_neg here]
        rfl

theorem routeEach_ok {batch : Batch Value}
    {invalidProperties : List (AnyEntry Value)} {result : Batch Value × List (AnyEntry Value)}
    (routed : routeEach route items batch invalidProperties = .ok result) :
    ∀ item ∈ items, ∃ routed, route item = .ok routed := by
  induction items generalizing batch invalidProperties with
  | nil => simp
  | cons item rest ih =>
      rw [routeEach] at routed
      split at routed
      · cases routed
      all_goals
        next here => exact forall_mem_cons.mpr ⟨⟨_, here⟩, ih routed⟩

theorem routeEach_clean {batch result : Batch Value} {invalidProperties : List (AnyEntry Value)}
    (routed : routeEach route items batch invalidProperties = .ok (result, [])) :
    invalidProperties = [] ∧ ∀ item ∈ items, ∃ routed, route item = .ok routed ∧ routed.lost = none := by
  induction items generalizing batch invalidProperties with
  | nil =>
      cases routed
      simp
  | cons item rest ih =>
      rw [routeEach] at routed
      split at routed
      · cases routed
      · next here =>
          obtain ⟨empty, later⟩ := ih routed
          exact ⟨empty, forall_mem_cons.mpr ⟨⟨_, here, rfl⟩, later⟩⟩
      · simpa using (ih routed).1
      · next here =>
          obtain ⟨empty, later⟩ := ih routed
          exact ⟨empty, forall_mem_cons.mpr ⟨⟨_, here, rfl⟩, later⟩⟩

end Routes

namespace Component

variable {component : Component Value}

def answered (component : Component Value) (configProperties : List (AnyEntry Value)) :
    List (AnyEntry Value) :=
  if configProperties.length = 0 then component.queryAll
  else configProperties.map fun entry => (entry.1, (component.queryOne entry.1).getD entry.2)

def Knows (component : Component Value) (configProperties : List (AnyEntry Value)) : Prop :=
  component.alive = true ∧ ∀ entry ∈ configProperties, (component.queryOne entry.1).isSome = true

theorem query_of_knows {configProperties : List (AnyEntry Value)} (knows : component.Knows configProperties) :
    component.query configProperties = .ok (component.answered configProperties) := by
  have known : configProperties.filter (fun entry => (component.queryOne entry.1).isNone) = [] :=
    filter_eq_nil_iff.mpr fun entry member => by simp [← Option.isSome_iff_ne_none, knows.2 entry member]
  rw [query, if_pos knows.1, known, answered]
  split <;> simp

theorem query_of_not_knows {configProperties : List (AnyEntry Value)}
    (unknown : ¬component.Knows configProperties) :
    component.query configProperties = .error .systemException ∨
      ∃ unknown, unknown ≠ [] ∧ component.query configProperties = .error (.unknownProperties unknown) := by
  rw [query]
  cases alive : component.alive with
  | false => exact .inl (by simp)
  | true =>
      obtain ⟨entry, member, missing⟩ : ∃ entry ∈ configProperties,
          (component.queryOne entry.1).isSome = false := by
        simpa [Knows, alive] using unknown
      have listed : entry ∈ configProperties.filter fun entry => (component.queryOne entry.1).isNone :=
        mem_filter.mpr ⟨member, by simpa using missing⟩
      refine .inr ⟨_, ne_nil_of_mem listed, ?_⟩
      rw [if_pos rfl, if_neg (by simpa using ne_nil_of_mem member),
        if_pos (by simpa using ne_nil_of_mem listed)]

end Component

namespace Application

variable {app : Application Value} {compId : String}

theorem identifier_eq_ok {component : Option String} :
    app.identifier component = .ok compId ↔ component = some compId ∧ (app.component compId).alive = true := by
  unfold identifier
  cases component with
  | none => simp
  | some found =>
      simp only [Option.some.injEq]
      constructor
      · intro same
        split at same
        · next alive =>
            cases same
            exact ⟨rfl, alive⟩
        · cases same
      · rintro ⟨rfl, alive⟩
        exact if_pos alive

variable {answered : Batch Value}

theorem queryBatch_iff {batch all : Batch Value} {invalidProperties : List (AnyEntry Value)} :
    app.queryBatch batch answered invalidProperties = .ok (all, []) ↔
      invalidProperties = [] ∧ (∀ asked ∈ batch, (app.component asked.1).Knows asked.2) ∧
        all = answered ++ batch.map fun asked => (asked.1, (app.component asked.1).answered asked.2) := by
  induction batch generalizing answered invalidProperties with
  | nil => simp [queryBatch, eq_comm, and_comm]
  | cons asked rest ih =>
      rw [queryBatch]
      by_cases knows : (app.component asked.1).Knows asked.2
      · rw [Component.query_of_knows knows]
        simp [ih, knows, true_and, map_cons, append_assoc]
      · rcases Component.query_of_not_knows knows with raised | ⟨unknown, some, raised⟩
        · rw [raised]
          simp [knows]
        · rw [raised]
          simp [ih, knows, some]

def target (app : Application Value) (id : String) : String × String :=
  match app.properties.lookup id with
  | some external => (external.component.getD "", external.property_id)
  | none => (app.assemblyController, id)

def sentTo (app : Application Value) (entry : AnyEntry Value) : String × AnyEntry Value :=
  ((app.target entry.1).1, (app.target entry.1).2, entry.2)

def Readable (app : Application Value) (id : String) : Prop :=
  ∀ external, app.properties.lookup id = some external →
    external.access ≠ "writeonly" ∧ ∃ compId, app.identifier external.component = .ok compId

def Shows (app : Application Value) (id : String) (value : Option Value) : Prop :=
  app.Readable id ∧ (app.component (app.target id).1).queryOne (app.target id).2 = some value

variable {entry : AnyEntry Value}

theorem sendOn_eq {external : ExternalProperty} (reached : app.identifier external.component = .ok compId) :
    app.sendOn external entry = .ok (.batched compId (external.property_id, entry.2)) := by
  obtain ⟨held, -⟩ := identifier_eq_ok.mp reached
  rw [held] at reached
  simp [sendOn, held, reached]

theorem sendOn_ok {external : ExternalProperty} {routed : Routed Value}
    (sent : app.sendOn external entry = .ok routed) (kept : routed.lost = none) :
    ∃ compId, app.identifier external.component = .ok compId := by
  unfold sendOn at sent
  split at sent
  · cases sent
    cases kept
  · split at sent
    · cases sent
    · next compId reached => exact ⟨compId, reached⟩

theorem routeQueried_eq (readable : app.Readable entry.1) :
    app.routeQueried entry = .ok (.batched (app.sentTo entry).1 (app.sentTo entry).2) := by
  unfold routeQueried sentTo target
  cases found : app.properties.lookup entry.1 with
  | none => rfl
  | some external =>
      obtain ⟨access, compId, reached⟩ := readable external found
      simp [access, sendOn_eq reached, (identifier_eq_ok.mp reached).1]

theorem readable_of_routeQueried {routed : Routed Value}
    (sent : app.routeQueried entry = .ok routed) (kept : routed.lost = none) :
    app.Readable entry.1 := by
  intro external found
  simp only [routeQueried, found] at sent
  split at sent
  · cases sent
    cases kept
  · next access => exact ⟨access, sendOn_ok sent kept⟩

variable {id : String}

theorem denotes_eq (readable : app.Readable id) : app.denotes id = .ok (app.target id) := by
  unfold denotes target
  cases found : app.properties.lookup id with
  | none => rfl
  | some external =>
      obtain ⟨-, compId, reached⟩ := readable external found
      obtain ⟨held, -⟩ := identifier_eq_ok.mp reached
      rw [held] at reached
      simp [held, reached]

theorem alive_of_readable (alive : (app.component app.assemblyController).alive = true)
    (readable : app.Readable id) : (app.component (app.target id).1).alive = true := by
  unfold target
  cases found : app.properties.lookup id with
  | none => exact alive
  | some external =>
      obtain ⟨-, compId, reached⟩ := readable external found
      obtain ⟨held, answers⟩ := identifier_eq_ok.mp reached
      simp [held, answers]

variable {value : Option Value}

theorem foundValue_eq {propId : String} {given : Option Value}
    (same : ∀ found ∈ answered.flat, compId = found.1 → propId = found.2.1 → found.2.2 = value)
    (some : (∃ found ∈ answered.flat, compId = found.1 ∧ propId = found.2.1) ∨ given = value) :
    foundValue compId propId answered given = value := by
  unfold foundValue
  generalize answered.flat = all at same some ⊢
  induction all generalizing given with
  | nil => simpa using some
  | cons first rest ih =>
      obtain ⟨here, later⟩ := forall_mem_cons.mp same
      rw [foldl_cons]
      refine ih later ?_
      split
      · next matched => exact .inr (here matched.1 matched.2)
      · next missed =>
          refine some.imp_left ?_
          rintro ⟨found, member, matched⟩
          rcases mem_cons.mp member with rfl | behind
          · exact absurd matched missed
          · exact ⟨found, behind, matched⟩

variable {configProperties : List (AnyEntry Value)}

theorem findValues_eq (readable : ∀ entry ∈ configProperties, app.Readable entry.1) :
    app.findValues answered configProperties = .ok (configProperties.map fun entry => (entry.1,
      foundValue (app.target entry.1).1 (app.target entry.1).2 answered entry.2)) := by
  induction configProperties with
  | nil => rfl
  | cons entry rest ih =>
      obtain ⟨here, later⟩ := forall_mem_cons.mp readable
      rw [findValues, denotes_eq here, ih later]
      rfl

def batches (app : Application Value) (configProperties : List (AnyEntry Value)) : Batch Value :=
  addAll (configProperties.map app.sentTo) [(app.assemblyController, [])]

theorem mem_batches {asked : String × List (AnyEntry Value)} (member : asked ∈ app.batches configProperties) :
    (asked.1 = app.assemblyController ∨ ∃ entry ∈ configProperties, (app.sentTo entry).1 = asked.1) ∧
      asked.2 = (configProperties.filter fun entry => (app.sentTo entry).1 == asked.1).map
        fun entry => (app.sentTo entry).2 := by
  obtain ⟨key, entries⟩ := mem_addAll (sorted_singleton _) member
  have none : entriesOf asked.1 [(app.assemblyController, ([] : List (AnyEntry Value)))] = [] := by
    unfold entriesOf
    rw [flatMap_eq_nil_iff]
    intro batch kept
    rw [mem_singleton.mp (mem_of_mem_filter kept)]
  rw [none, nil_append, filter_map, map_map] at entries
  refine ⟨?_, entries⟩
  simpa [sentTo] using key

theorem exists_batch (app : Application Value) (member : entry ∈ configProperties) :
    ∃ asked ∈ app.batches configProperties, asked.1 = (app.sentTo entry).1 ∧ (app.sentTo entry).2 ∈ asked.2 :=
  exists_mem_addAll (sorted_singleton _) (mem_map_of_mem member)

theorem exists_controller_batch (app : Application Value) (configProperties : List (AnyEntry Value)) :
    ∃ asked ∈ app.batches configProperties, asked.1 = app.assemblyController := by
  have key : app.assemblyController ∈ (app.batches configProperties).map Prod.fst :=
    (mem_keys_addAll _).mpr (.inl (by simp))
  obtain ⟨asked, isAsked, same⟩ := mem_map.mp key
  exact ⟨asked, isAsked, same⟩

theorem routeEach_queried (readable : ∀ entry ∈ configProperties, app.Readable entry.1) :
    routeEach app.routeQueried configProperties [(app.assemblyController, [])] [] =
      .ok (app.batches configProperties, []) := by
  rw [routeEach_eq fun entry member => routeQueried_eq (readable entry member)]
  simp [sent, lost, batches, filterMap_eq_map']

def shown (app : Application Value) (id : String) : Option Value :=
  ((app.component (app.target id).1).queryOne (app.target id).2).getD none

theorem shows_iff : app.Shows id value ↔ (∃ value, app.Shows id value) ∧ value = app.shown id := by
  unfold Shows shown
  constructor
  · rintro ⟨readable, known⟩
    exact ⟨⟨value, readable, known⟩, by rw [known]; rfl⟩
  · rintro ⟨⟨other, readable, known⟩, rfl⟩
    exact ⟨readable, by rw [known]; rfl⟩

theorem batches_known (alive : (app.component app.assemblyController).alive = true)
    (shows : ∀ entry ∈ configProperties, ∃ value, app.Shows entry.1 value) :
    ∀ asked ∈ app.batches configProperties, (app.component asked.1).Knows asked.2 := by
  intro asked member
  obtain ⟨key, entries⟩ := mem_batches member
  constructor
  · rcases key with same | ⟨entry, inside, same⟩
    · exact same ▸ alive
    · obtain ⟨value, readable, -⟩ := shows entry inside
      exact same ▸ alive_of_readable alive readable
  · intro entry inside
    rw [entries] at inside
    obtain ⟨source, kept, rfl⟩ := mem_map.mp inside
    obtain ⟨isSource, same⟩ := mem_filter.mp kept
    obtain ⟨value, -, known⟩ := shows source isSource
    rw [← beq_iff_eq.mp same]
    exact Option.isSome_iff_exists.mpr ⟨value, known⟩

theorem foundValue_batches (member : entry ∈ configProperties) (shows : app.Shows entry.1 value) :
    foundValue (app.target entry.1).1 (app.target entry.1).2
      ((app.batches configProperties).map fun asked =>
        (asked.1, (app.component asked.1).answered asked.2)) entry.2 = value := by
  obtain ⟨asked, isAsked, key, held⟩ := exists_batch app member
  have answers : ∀ batch ∈ app.batches configProperties, batch.1 = (app.target entry.1).1 →
      (app.component batch.1).answered batch.2 = batch.2.map fun inside =>
        (inside.1, ((app.component (app.target entry.1).1).queryOne inside.1).getD inside.2) := by
    intro batch isBatch same
    have nonempty : batch.2 ≠ [] := by
      rw [(mem_batches isBatch).2, ne_eq, map_eq_nil_iff, filter_eq_nil_iff]
      exact fun none => none entry member (by simp [sentTo, same])
    rw [Component.answered, if_neg (by simpa using nonempty), same]
  have flat : ∀ found, found ∈ flat ((app.batches configProperties).map fun asked =>
      (asked.1, (app.component asked.1).answered asked.2)) ↔
        ∃ batch ∈ app.batches configProperties, found.1 = batch.1 ∧
          found.2 ∈ (app.component batch.1).answered batch.2 := by
    intro found
    simp only [flat, flatMap_map, mem_flatMap, mem_map]
    constructor
    · rintro ⟨batch, isBatch, inside, answered, rfl⟩
      exact ⟨batch, isBatch, rfl, answered⟩
    · rintro ⟨batch, isBatch, same, answered⟩
      exact ⟨batch, isBatch, found.2, answered, by rw [← same]⟩
  refine foundValue_eq (fun found isFound component property => ?_) (.inl ?_)
  · obtain ⟨batch, isBatch, same, inside⟩ := (flat found).mp isFound
    rw [answers batch isBatch (same.symm.trans component.symm)] at inside
    obtain ⟨source, -, equal⟩ := mem_map.mp inside
    rw [← equal] at property ⊢
    rw [← property, shows.2]
    rfl
  · refine ⟨((app.target entry.1).1, (app.target entry.1).2, value), (flat _).mpr
      ⟨asked, isAsked, key.symm, ?_⟩, rfl, rfl⟩
    rw [answers asked isAsked key]
    exact mem_map.mpr ⟨_, held, by rw [sentTo, shows.2]; rfl⟩

theorem queryListed_eq (alive : (app.component app.assemblyController).alive = true)
    (shows : ∀ entry ∈ configProperties, ∃ value, app.Shows entry.1 value) :
    app.queryListed configProperties = .ok (configProperties.map fun entry => (entry.1, app.shown entry.1)) := by
  have readable : ∀ entry ∈ configProperties, app.Readable entry.1 := fun entry member =>
    (shows entry member).choose_spec.1
  rw [queryListed, routeEach_queried readable]
  simp only
  rw [queryBatch_iff.mpr ⟨rfl, batches_known alive shows, rfl⟩]
  simp only [nil_append]
  rw [findValues_eq readable]
  simp only [isEmpty_nil, if_true, Except.ok.injEq]
  refine map_congr_left fun entry member => ?_
  obtain ⟨value, isShown⟩ := shows entry member
  rw [foundValue_batches member isShown, (shows_iff.mp isShown).2]

theorem shows_of_queryListed {result : List (AnyEntry Value)}
    (answered : app.queryListed configProperties = .ok result) :
    (app.component app.assemblyController).alive = true ∧
      ∀ entry ∈ configProperties, ∃ value, app.Shows entry.1 value := by
  unfold queryListed at answered
  split at answered
  · cases answered
  next batch invalidProperties routed =>
    split at answered
    · cases answered
    next all invalidAfter queried =>
      split at answered
      · cases answered
      next found values =>
        split at answered
        · next empty =>
            rw [List.isEmpty_iff.mp empty] at queried
            obtain ⟨rfl, knows, -⟩ := queryBatch_iff.mp queried
            have readable : ∀ entry ∈ configProperties, app.Readable entry.1 := by
              intro entry member
              obtain ⟨sent, route, kept⟩ := (routeEach_clean routed).2 entry member
              exact readable_of_routeQueried route kept
            rw [routeEach_queried readable] at routed
            cases routed
            obtain ⟨own, isOwn, ownKey⟩ := exists_controller_batch app configProperties
            refine ⟨ownKey ▸ (knows own isOwn).1, fun entry member => ?_⟩
            obtain ⟨asked, isAsked, key, held⟩ := exists_batch app member
            obtain ⟨value, known⟩ :=
              Option.isSome_iff_exists.mp (key ▸ (knows asked isAsked).2 _ held)
            exact ⟨value, readable entry member, known⟩
        · cases answered

theorem queryListed_iff {result : List (AnyEntry Value)} :
    app.queryListed configProperties = .ok result ↔
      (app.component app.assemblyController).alive = true ∧
        Forall₂ (fun entry found => found.1 = entry.1 ∧ app.Shows entry.1 found.2)
          configProperties result := by
  constructor
  · intro answered
    obtain ⟨alive, shows⟩ := shows_of_queryListed answered
    rw [queryListed_eq alive shows, Except.ok.injEq] at answered
    subst answered
    refine ⟨alive, forall₂_map_right_iff.mpr (forall₂_same.mpr fun entry member => ?_)⟩
    exact ⟨rfl, shows_iff.mpr ⟨shows entry member, rfl⟩⟩
  · rintro ⟨alive, each⟩
    have both : (result = configProperties.map fun entry => (entry.1, app.shown entry.1)) ∧
        ∀ entry ∈ configProperties, ∃ value, app.Shows entry.1 value := by
      induction each with
      | nil => exact ⟨rfl, by simp⟩
      | cons here later ih =>
          obtain ⟨same, shows⟩ := ih
          refine ⟨?_, forall_mem_cons.mpr ⟨⟨_, here.2⟩, shows⟩⟩
          rw [map_cons, ← same, ← (shows_iff.mp here.2).2, ← here.1]
    rw [queryListed_eq alive both.2, both.1]

end Application

end Redhawk.Applications.Routing
