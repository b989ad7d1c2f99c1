import Redhawk.Applications.PropertyQueries

/-!
What `query` of an empty list returns: the external properties under the ids that the search for a
component and its property comes to first, and what is left of the assembly controller.
-/

namespace Redhawk.Applications.Routing

open Redhawk.Library Batches List

variable {Value : Type}

namespace Application

def Promotes (external : ExternalProperty) (compId propId : String) : Prop :=
  external.component = some compId ∧ external.property_id = propId

instance (external : ExternalProperty) (compId propId : String) :
    Decidable (Promotes external compId propId) :=
  inferInstanceAs (Decidable (_ ∧ _))

def Passes (app : Application Value) (compId propId : String) (promoted : String × ExternalProperty) :
    Prop :=
  (∃ other, app.identifier promoted.2.component = .ok other) ∧ ¬Promotes promoted.2 compId propId

/-- No promotion before this one is of the property, and the components of all of them can be reached. -/
def Foremost (app : Application Value) (compId propId extId : String) : Prop :=
  ∃ front external back, app.properties = front ++ (extId, external) :: back ∧
    Promotes external compId propId ∧ (app.component compId).alive = true ∧
      ∀ promoted ∈ front, app.Passes compId propId promoted

def Unpromoted (app : Application Value) (compId propId : String) : Prop :=
  ∀ promoted ∈ app.properties, ¬Promotes promoted.2 compId propId

instance (app : Application Value) (compId propId : String) : Decidable (app.Unpromoted compId propId) :=
  inferInstanceAs (Decidable (∀ promoted ∈ app.properties, _))

def readable (app : Application Value) : List (String × ExternalProperty) :=
  app.properties.filter fun promoted => promoted.2.access ≠ "writeonly"

def unpromoted (app : Application Value) : List (AnyEntry Value) :=
  (app.component app.assemblyController).queryAll.filter fun entry =>
    app.Unpromoted app.assemblyController entry.1

variable {app : Application Value} {compId propId extId : String}

theorem among_eq_ok {properties : List (String × ExternalProperty)} :
    app.getExternalPropertyIdAmong compId propId properties = .ok extId ↔
      (∃ front external back, properties = front ++ (extId, external) :: back ∧
        Promotes external compId propId ∧ (app.component compId).alive = true ∧
          ∀ promoted ∈ front, app.Passes compId propId promoted) ∨
      (extId = "" ∧ ∀ promoted ∈ properties, app.Passes compId propId promoted) := by
  induction properties with
  | nil =>
      rw [getExternalPropertyIdAmong, Except.ok.injEq, eq_comm]
      simp
  | cons promoted rest ih =>
      rw [getExternalPropertyIdAmong]
      cases reached : app.identifier promoted.2.component with
      | error raised =>
          simp only [reduceCtorEq, false_iff, not_or, not_exists, not_and]
          constructor
          · intro front external back split promotes alive passed
            rcases front with _ | ⟨first, front⟩
            · obtain ⟨rfl, rfl⟩ := cons.inj split
              rw [identifier_eq_ok.mpr ⟨promotes.1, alive⟩] at reached
              cases reached
            · obtain ⟨rfl, rfl⟩ := cons.inj split
              obtain ⟨⟨other, isOther⟩, -⟩ := passed promoted mem_cons_self
              rw [isOther] at reached
              cases reached
          · intro _ passed
            obtain ⟨⟨other, isOther⟩, -⟩ := passed promoted mem_cons_self
            rw [isOther] at reached
            cases reached
      | ok found =>
          obtain ⟨held, alive⟩ := identifier_eq_ok.mp reached
          have here : (found = compId ∧ promoted.2.property_id = propId) ↔ Promotes promoted.2 compId propId := by
            rw [Promotes, held, Option.some.injEq]
          simp only [here]
          split
          · next promotes =>
              obtain rfl := (here.mpr promotes).1
              rw [Except.ok.injEq]
              constructor
              · rintro rfl
                exact .inl ⟨[], promoted.2, rest, rfl, promotes, alive, by simp⟩
              · rintro (⟨front, external, back, split, -, -, passed⟩ | ⟨-, passed⟩)
                · rcases front with _ | ⟨first, front⟩
                  · rw [(cons.inj split).1]
                  · obtain ⟨rfl, -⟩ := cons.inj split
                    exact absurd promotes (passed promoted mem_cons_self).2
                · exact absurd promotes (passed promoted mem_cons_self).2
          · next other =>
              have passes : app.Passes compId propId promoted := ⟨⟨found, reached⟩, other⟩
              rw [ih]
              refine or_congr ?_ (and_congr_right fun _ => by simp [passes])
              constructor
              · rintro ⟨front, external, back, rfl, promotes, answers, passed⟩
                exact ⟨promoted :: front, external, back, rfl, promotes, answers,
                  forall_mem_cons.mpr ⟨passes, passed⟩⟩
              · rintro ⟨front, external, back, split, promotes, answers, passed⟩
                rcases front with _ | ⟨first, front⟩
                · obtain ⟨rfl, rfl⟩ := cons.inj split
                  exact absurd promotes other
                · obtain ⟨rfl, rfl⟩ := cons.inj split
                  exact ⟨front, external, back, rfl, promotes, answers, (forall_mem_cons.mp passed).2⟩

theorem getExternalPropertyId_eq_ok :
    app.getExternalPropertyId compId propId = .ok extId ↔
      app.Foremost compId propId extId ∨
        (extId = "" ∧ ∀ promoted ∈ app.properties, app.Passes compId propId promoted) :=
  among_eq_ok

def extOf (app : Application Value) (compId propId : String) : String :=
  match app.getExternalPropertyId compId propId with
  | .ok extId => extId
  | .error _ => ""

def Searches (app : Application Value) (compId propId : String) : Prop :=
  ∃ extId, app.getExternalPropertyId compId propId = .ok extId

theorem getExternalPropertyId_of_searches (searches : app.Searches compId propId) :
    app.getExternalPropertyId compId propId = .ok (app.extOf compId propId) := by
  obtain ⟨extId, found⟩ := searches
  rw [extOf, found]

theorem translateBack_iff {entries translated : List (AnyEntry Value)} :
    app.translateBack compId entries = .ok translated ↔
      (∀ entry ∈ entries, app.Searches compId entry.1) ∧
        entries.map (fun entry => (app.extOf compId entry.1, entry.2)) = translated := by
  induction entries generalizing translated with
  | nil => simp [translateBack]
  | cons entry rest ih =>
      rw [translateBack, forall_mem_cons, map_cons]
      cases found : app.getExternalPropertyId compId entry.1 with
      | error raised =>
          have none : ¬app.Searches compId entry.1 := by simp [Searches, found]
          simp [none]
      | ok extId =>
          have searches : app.Searches compId entry.1 := ⟨extId, found⟩
          have same : app.extOf compId entry.1 = extId := by rw [extOf, found]
          rw [and_iff_right searches, same]
          cases behind : app.translateBack compId rest with
          | error raised =>
              simp only [reduceCtorEq, false_iff, not_and]
              intro all _
              have found := ih.mpr ⟨all, rfl⟩
              rw [behind] at found
              cases found
          | ok others =>
              obtain ⟨all, rfl⟩ := ih.mp behind
              simp only [Except.ok.injEq]
              exact (and_iff_right all).symm

variable {configProperties result : List (AnyEntry Value)}

theorem addUnpromoted_iff {entries : List (AnyEntry Value)} :
    app.addUnpromoted entries configProperties = .ok result ↔
      (∀ entry ∈ entries, app.Searches app.assemblyController entry.1) ∧
        configProperties ++
          entries.filter (fun entry => app.extOf app.assemblyController entry.1 = "") = result := by
  induction entries generalizing configProperties with
  | nil => simp [addUnpromoted]
  | cons entry rest ih =>
      rw [addUnpromoted, forall_mem_cons]
      cases found : app.getExternalPropertyId app.assemblyController entry.1 with
      | error raised =>
          have none : ¬app.Searches app.assemblyController entry.1 := by simp [Searches, found]
          simp [none]
      | ok extId =>
          have searches : app.Searches app.assemblyController entry.1 := ⟨extId, found⟩
          have same : app.extOf app.assemblyController entry.1 = extId := by rw [extOf, found]
          rw [and_iff_right searches]
          simp only
          split
          · next empty =>
              rw [ih, filter_cons_of_pos (by simp [same, empty]), append_assoc]
              rfl
          · next named => rw [ih, filter_cons_of_neg (by simp [same, named])]

def translated (app : Application Value) (asked : String × AnyEntry Value) : AnyEntry Value :=
  (app.extOf asked.1 asked.2.1, ((app.component asked.1).queryOne asked.2.1).getD asked.2.2)

theorem queryExternal_iff {batch : Batch Value}
    {invalidProperties : List (AnyEntry Value)} (asks : ∀ asked ∈ batch, asked.2 ≠ []) :
    app.queryExternal batch configProperties invalidProperties = .ok (result, []) ↔
      invalidProperties = [] ∧
        (∀ asked ∈ batch, (app.component asked.1).Knows asked.2 ∧
          ∀ entry ∈ asked.2, app.Searches asked.1 entry.1) ∧
        configProperties ++ batch.flat.map app.translated = result := by
  induction batch generalizing configProperties invalidProperties with
  | nil => simp [queryExternal, flat, and_comm]
  | cons asked rest ih =>
      obtain ⟨here, later⟩ := forall_mem_cons.mp asks
      rw [queryExternal, forall_mem_cons]
      by_cases knows : (app.component asked.1).Knows asked.2
      · rw [Component.query_of_knows knows]
        have answers : (app.component asked.1).answered asked.2 = asked.2.map fun entry =>
            (entry.1, ((app.component asked.1).queryOne entry.1).getD entry.2) :=
          if_neg (by simpa using here)
        have sameIds : (∀ entry ∈ (app.component asked.1).answered asked.2,
            app.Searches asked.1 entry.1) ↔ ∀ entry ∈ asked.2, app.Searches asked.1 entry.1 := by
          rw [answers, forall_mem_map]
        simp only
        cases back : app.translateBack asked.1 ((app.component asked.1).answered asked.2) with
        | error raised =>
            simp only [reduceCtorEq, false_iff]
            rintro ⟨-, ⟨⟨-, all⟩, -⟩, -⟩
            have found := translateBack_iff.mpr ⟨sameIds.mpr all, rfl⟩
            rw [back] at found
            cases found
        | ok found =>
            obtain ⟨all, rfl⟩ := translateBack_iff.mp back
            simp only [ih later, knows, and_iff_right (sameIds.mp all), true_and, flat,
              flatMap_cons, map_append, append_assoc, answers, map_map]
            rfl
      · rcases Component.query_of_not_knows knows with raised | ⟨unknown, some, raised⟩
        · rw [raised]
          simp [knows]
        · rw [raised]
          simp [ih later, knows, some]

def asked (_app : Application Value) (promoted : String × ExternalProperty) : String × AnyEntry Value :=
  (promoted.2.component.getD "", promoted.2.property_id, none)

variable {promoted : String × ExternalProperty}

theorem routePromoted_eq (reached : promoted.2.access ≠ "writeonly" →
      ∃ compId, app.identifier promoted.2.component = .ok compId) :
    app.routePromoted promoted = .ok (if promoted.2.access = "writeonly" then .skipped
      else .batched (app.asked promoted).1 (app.asked promoted).2) := by
  unfold routePromoted asked
  split
  · rfl
  · next access =>
      obtain ⟨compId, found⟩ := reached access
      rw [sendOn_eq found, (identifier_eq_ok.mp found).1]
      rfl

theorem routeEach_promoted
    (reached : ∀ promoted ∈ app.readable, ∃ compId, app.identifier promoted.2.component = .ok compId) :
    routeEach app.routePromoted app.properties [] [] =
      .ok (addAll (app.readable.map app.asked) [], []) := by
  rw [routeEach_eq fun promoted member => routePromoted_eq fun access =>
    reached promoted (mem_filter.mpr ⟨member, by simpa using access⟩)]
  rw [filterMap_sent (fun _ => rfl), filterMap_lost]
  simp [Routed.lost, readable]

def Answers (app : Application Value) (promoted : String × ExternalProperty) : Prop :=
  ∃ compId, app.identifier promoted.2.component = .ok compId ∧
    ((app.component compId).queryOne promoted.2.property_id).isSome = true ∧
      app.Searches compId promoted.2.property_id

theorem mem_asked {batch : String × List (AnyEntry Value)}
    (member : batch ∈ addAll (app.readable.map app.asked) []) :
    batch.2 ≠ [] ∧ (∃ promoted ∈ app.readable, (app.asked promoted).1 = batch.1) ∧
      ∀ entry ∈ batch.2, ∃ promoted ∈ app.readable, app.asked promoted = (batch.1, entry) := by
  obtain ⟨key, entries⟩ := mem_addAll sorted_nil member
  obtain ⟨first, isFirst, firstKey⟩ := mem_map.mp (key.resolve_left not_mem_nil)
  have inside : first.2 ∈ batch.2 := by
    rw [entries]
    exact mem_map_of_mem (mem_filter.mpr ⟨isFirst, by simp [firstKey]⟩)
  refine ⟨ne_nil_of_mem inside, ?_, fun entry isEntry => ?_⟩
  · obtain ⟨promoted, isPromoted, rfl⟩ := mem_map.mp isFirst
    exact ⟨promoted, isPromoted, firstKey⟩
  · rw [entries] at isEntry
    obtain ⟨item, kept, rfl⟩ := mem_map.mp isEntry
    obtain ⟨isItem, same⟩ := mem_filter.mp kept
    obtain ⟨promoted, isPromoted, rfl⟩ := mem_map.mp isItem
    exact ⟨promoted, isPromoted, by rw [← beq_iff_eq.mp same]⟩

theorem asked_known_iff
    (reached : ∀ promoted ∈ app.readable, ∃ compId, app.identifier promoted.2.component = .ok compId) :
    (∀ batch ∈ addAll (app.readable.map app.asked) [],
        (app.component batch.1).Knows batch.2 ∧ ∀ entry ∈ batch.2, app.Searches batch.1 entry.1) ↔
      ∀ promoted ∈ app.readable, app.Answers promoted := by
  constructor
  · intro known promoted isPromoted
    obtain ⟨compId, found⟩ := reached promoted isPromoted
    obtain ⟨batch, isBatch, key, held⟩ := exists_mem_addAll sorted_nil
      (mem_map_of_mem (f := app.asked) isPromoted)
    have same : batch.1 = compId := by rw [key, asked, (identifier_eq_ok.mp found).1]; rfl
    obtain ⟨⟨-, knows⟩, searches⟩ := known batch isBatch
    exact ⟨compId, found, same ▸ knows _ held, same ▸ searches _ held⟩
  · intro answers batch isBatch
    obtain ⟨-, ⟨first, isFirst, firstKey⟩, entries⟩ := mem_asked isBatch
    refine ⟨⟨?_, fun entry isEntry => ?_⟩, fun entry isEntry => ?_⟩
    · obtain ⟨compId, found, -⟩ := answers first isFirst
      obtain ⟨held, alive⟩ := identifier_eq_ok.mp found
      rw [← firstKey, asked, held]
      exact alive
    all_goals
      obtain ⟨promoted, isPromoted, same⟩ := entries entry isEntry
      obtain ⟨compId, found, knows, searches⟩ := answers promoted isPromoted
      obtain ⟨component, rfl⟩ := Prod.mk.inj same
      rw [(identifier_eq_ok.mp found).1] at component
      obtain rfl : compId = batch.1 := component
    · exact knows
    · exact searches

theorem invalid_of_queryExternal {batch : Batch Value} {invalidProperties : List (AnyEntry Value)}
    (queried : app.queryExternal batch configProperties invalidProperties = .ok (result, [])) :
    invalidProperties = [] := by
  induction batch generalizing configProperties invalidProperties with
  | nil => exact (Prod.mk.inj (Except.ok.inj queried)).2
  | cons asked rest ih =>
      rw [queryExternal] at queried
      split at queried
      · cases queried
      · exact (append_eq_nil_iff.mp (ih queried)).1
      · split at queried
        · cases queried
        · exact ih queried

theorem queryAll_iff :
    app.queryAll = .ok result ↔ (∀ promoted ∈ app.readable, app.Answers promoted) ∧
      (app.component app.assemblyController).alive = true ∧
      (∀ entry ∈ (app.component app.assemblyController).queryAll, app.Searches app.assemblyController entry.1) ∧
      (addAll (app.readable.map app.asked) []).flat.map app.translated ++
        (app.component app.assemblyController).queryAll.filter
          (fun entry => app.extOf app.assemblyController entry.1 = "") = result := by
  have asks : ∀ batch ∈ addAll (app.readable.map app.asked) [], batch.2 ≠ [] :=
    fun batch member => (mem_asked member).1
  constructor
  · intro answered
    unfold queryAll at answered
    split at answered
    · cases answered
    next batch invalidProperties routed =>
      split at answered
      · cases answered
      next external invalidAfter queried =>
        split at answered
        · cases answered
        · cases answered
        next tempProp own =>
          split at answered
          · cases answered
          next all added =>
            split at answered
            · next empty =>
                cases answered
                rw [List.isEmpty_iff.mp empty] at queried
                obtain rfl := invalid_of_queryExternal queried
                have reached : ∀ promoted ∈ app.readable,
                    ∃ compId, app.identifier promoted.2.component = .ok compId := by
                  intro promoted member
                  obtain ⟨isProperty, access⟩ := mem_filter.mp member
                  obtain ⟨sent, route, kept⟩ := (routeEach_clean routed).2 promoted isProperty
                  rw [routePromoted, if_neg (by simpa using access)] at route
                  exact sendOn_ok route kept
                rw [routeEach_promoted reached] at routed
                cases routed
                obtain ⟨-, known, rfl⟩ := (queryExternal_iff asks).mp queried
                have alive : (app.component app.assemblyController).Knows [] := by
                  by_contra unknown
                  rcases Component.query_of_not_knows unknown with raised | ⟨_, _, raised⟩ <;>
                    simp [raised] at own
                rw [Component.query_of_knows alive] at own
                obtain rfl := Except.ok.inj own
                exact ⟨(asked_known_iff reached).mp known, alive.1, addUnpromoted_iff.mp added⟩
            · cases answered
  · rintro ⟨answers, alive, searches, rfl⟩
    have reached : ∀ promoted ∈ app.readable,
        ∃ compId, app.identifier promoted.2.component = .ok compId := fun promoted member =>
      have ⟨compId, found, _⟩ := answers promoted member
      ⟨compId, found⟩
    rw [queryAll, routeEach_promoted reached]
    simp only
    rw [(queryExternal_iff asks).mpr ⟨rfl, (asked_known_iff reached).mpr answers, rfl⟩]
    have own : (app.component app.assemblyController).Knows [] := ⟨alive, by simp⟩
    rw [Component.query_of_knows own]
    simp only
    rw [Component.answered, if_pos length_nil, addUnpromoted_iff.mpr ⟨searches, rfl⟩]
    rfl

theorem lookup_of_property (member : promoted ∈ app.properties) :
    app.properties.lookup promoted.1 = some promoted.2 :=
  lookup_of_mem (List.Pairwise.imp (fun below => ne_of_lt below) app.sorted) member

theorem Foremost.found (foremost : app.Foremost compId propId extId) :
    app.Searches compId propId ∧ app.extOf compId propId = extId := by
  have found := getExternalPropertyId_eq_ok.mpr (.inl foremost)
  exact ⟨⟨extId, found⟩, by rw [extOf, found]⟩

theorem Foremost.mem (foremost : app.Foremost compId propId extId) :
    ∃ external, (extId, external) ∈ app.properties ∧ Promotes external compId propId := by
  obtain ⟨front, external, back, split, promotes, -⟩ := foremost
  exact ⟨external, split ▸ mem_append_right _ mem_cons_self, promotes⟩

theorem foremost_of_searches (searches : app.Searches compId propId)
    (member : promoted ∈ app.properties) (promotes : Promotes promoted.2 compId propId) :
    app.Foremost compId propId (app.extOf compId propId) := by
  rcases getExternalPropertyId_eq_ok.mp (getExternalPropertyId_of_searches searches) with
    foremost | ⟨-, passed⟩
  · exact foremost
  · exact absurd promotes (passed promoted member).2

theorem extOf_of_unpromoted (unpromoted : app.Unpromoted compId propId) :
    app.extOf compId propId = "" := by
  unfold extOf
  split
  · next extId found =>
      rcases getExternalPropertyId_eq_ok.mp found with foremost | ⟨empty, -⟩
      · obtain ⟨external, member, promotes⟩ := foremost.mem
        exact absurd promotes (unpromoted _ member)
      · exact empty
  · rfl

theorem query_single_iff {id : String} {value : Option Value} {entry : AnyEntry Value} :
    app.query [(id, value)] = .ok [entry] ↔
      (app.component app.assemblyController).alive = true ∧ entry.1 = id ∧ app.Shows id entry.2 := by
  rw [query, if_neg (by simp), queryListed_iff]
  simp

theorem shows_of_readable (member : promoted ∈ app.readable)
    (reached : app.identifier promoted.2.component = .ok compId) {value : Option Value}
    (known : (app.component compId).queryOne promoted.2.property_id = some value) :
    app.Shows promoted.1 value := by
  obtain ⟨isProperty, access⟩ := mem_filter.mp member
  have found := lookup_of_property isProperty
  have stands : app.target promoted.1 = (compId, promoted.2.property_id) := by
    simp [target, found, (identifier_eq_ok.mp reached).1]
  refine ⟨fun external same => ?_, by rw [stands]; exact known⟩
  obtain rfl := Option.some.inj (found.symm.trans same)
  exact ⟨by simpa using access, compId, reached⟩

/-- `query` of an empty list has every external property that can be read once under its id, every
property of the assembly controller that is not promoted once, and each with the value that its id alone
is answered with. -/
def QueriesAll (app : Application Value) : Prop :=
  ∃ result, app.query [] = .ok result ∧
    (result.map Prod.fst).Perm (app.readable.map Prod.fst ++ app.unpromoted.map Prod.fst) ∧
      ∀ entry ∈ result, ∀ value, app.query [(entry.1, value)] = .ok [entry]

structure Translates (app : Application Value) : Prop where
  alive : (app.component app.assemblyController).alive = true
  external : ∀ promoted ∈ app.readable, ∃ compId, promoted.2.component = some compId ∧
    ((app.component compId).queryOne promoted.2.property_id).isSome = true ∧
      app.Foremost compId promoted.2.property_id promoted.1
  own : ∀ entry ∈ (app.component app.assemblyController).queryAll,
    (∃ extId, extId ≠ "" ∧ app.Foremost app.assemblyController entry.1 extId) ∨
      (app.Unpromoted app.assemblyController entry.1 ∧
        (∀ promoted ∈ app.properties, ∃ compId, app.identifier promoted.2.component = .ok compId) ∧
          app.Shows entry.1 entry.2)

theorem Foremost.alive (foremost : app.Foremost compId propId extId) : (app.component compId).alive = true := by
  obtain ⟨_, _, _, _, _, alive, _⟩ := foremost
  exact alive

theorem searches_of_unpromoted (unpromoted : app.Unpromoted compId propId)
    (reached : ∀ promoted ∈ app.properties, ∃ compId, app.identifier promoted.2.component = .ok compId) :
    app.Searches compId propId :=
  ⟨"", getExternalPropertyId_eq_ok.mpr (.inr ⟨rfl, fun promoted member =>
    ⟨reached promoted member, unpromoted promoted member⟩⟩)⟩

theorem translated_perm :
    ((addAll (app.readable.map app.asked) []).flat.map app.translated).Perm
      (app.readable.map fun promoted => app.translated (app.asked promoted)) := by
  have flat : (addAll (app.readable.map app.asked) []).flat.Perm
      (app.readable.map app.asked ++ []) := flat_addAll _
  simpa [Function.comp_def] using flat.map app.translated

theorem Translates.queriesAll (translates : app.Translates) : app.QueriesAll := by
  have answers : ∀ promoted ∈ app.readable, app.Answers promoted := by
    intro promoted member
    obtain ⟨compId, held, known, foremost⟩ := translates.external promoted member
    exact ⟨compId, identifier_eq_ok.mpr ⟨held, foremost.alive⟩, known, foremost.found.1⟩
  have searches : ∀ entry ∈ (app.component app.assemblyController).queryAll,
      app.Searches app.assemblyController entry.1 := by
    intro entry member
    rcases translates.own entry member with ⟨extId, -, foremost⟩ | ⟨unpromoted, reached, -⟩
    · exact foremost.found.1
    · exact searches_of_unpromoted unpromoted reached
  have rest : (app.component app.assemblyController).queryAll.filter
      (fun entry => app.extOf app.assemblyController entry.1 = "") = app.unpromoted := by
    refine filter_congr fun entry member => decide_eq_decide.mpr ?_
    rcases translates.own entry member with ⟨extId, named, foremost⟩ | ⟨unpromoted, -, -⟩
    · obtain ⟨external, isProperty, promotes⟩ := foremost.mem
      rw [foremost.found.2]
      exact iff_of_false named fun unpromoted => unpromoted _ isProperty promotes
    · exact iff_of_true (extOf_of_unpromoted unpromoted) unpromoted
  have external : ∀ promoted ∈ app.readable, (app.translated (app.asked promoted)).1 = promoted.1 ∧
      app.Shows promoted.1 (app.translated (app.asked promoted)).2 := by
    intro promoted member
    obtain ⟨compId, held, known, foremost⟩ := translates.external promoted member
    obtain ⟨value, isValue⟩ := Option.isSome_iff_exists.mp known
    refine ⟨by simp [translated, asked, held, foremost.found.2], ?_⟩
    have shows := shows_of_readable member (identifier_eq_ok.mpr ⟨held, foremost.alive⟩) isValue
    simpa [translated, asked, held, isValue] using shows
  refine ⟨_, by rw [query, if_pos length_nil, queryAll_iff.mpr
    ⟨answers, translates.alive, searches, rfl⟩], ?_, ?_⟩
  · rw [rest, map_append]
    refine ((translated_perm.map Prod.fst).trans ?_).append_right _
    rw [map_map]
    exact Perm.of_eq (map_congr_left fun promoted member => (external promoted member).1)
  · intro entry member value
    rw [query_single_iff]
    refine ⟨translates.alive, rfl, ?_⟩
    rcases mem_append.mp member with isExternal | isOwn
    · obtain ⟨promoted, isReadable, rfl⟩ := mem_map.mp (translated_perm.mem_iff.mp isExternal)
      obtain ⟨same, shows⟩ := external promoted isReadable
      exact same ▸ shows
    · rw [rest] at isOwn
      obtain ⟨isQueried, unpromoted⟩ := mem_filter.mp isOwn
      rcases translates.own entry isQueried with ⟨extId, -, foremost⟩ | ⟨-, -, shows⟩
      · obtain ⟨promotion, isProperty, promotes⟩ := foremost.mem
        exact absurd promotes (of_decide_eq_true unpromoted _ isProperty)
      · exact shows

theorem rest_eq_unpromoted {front back : List String}
    (ids : (front ++ ((app.component app.assemblyController).queryAll.filter
      (fun entry => app.extOf app.assemblyController entry.1 = "")).map Prod.fst).Perm
        (back ++ app.unpromoted.map Prod.fst))
    (lengths : front.length = back.length) :
    (app.component app.assemblyController).queryAll.filter
      (fun entry => app.extOf app.assemblyController entry.1 = "") = app.unpromoted := by
  have part : app.unpromoted.Sublist ((app.component app.assemblyController).queryAll.filter
      (fun entry => app.extOf app.assemblyController entry.1 = "")) :=
    monotone_filter_right _ fun entry unpromoted =>
      decide_eq_true (extOf_of_unpromoted (of_decide_eq_true unpromoted))
  have counted := ids.length_eq
  simp only [length_append, length_map] at counted
  exact (part.eq_of_length (by omega)).symm

theorem QueriesAll.translates (queries : app.QueriesAll) : app.Translates := by
  obtain ⟨result, answered, ids, values⟩ := queries
  obtain ⟨answers, alive, searches, rfl⟩ := queryAll_iff.mp answered
  rw [map_append] at ids
  have external := ((translated_perm.map Prod.fst).symm.append_right _).trans ids
  rw [map_map] at external
  have rest := rest_eq_unpromoted external (by simp)
  rw [rest, perm_append_right_iff] at external
  refine ⟨alive, fun promoted member => ?_, fun entry member => ?_⟩
  · obtain ⟨compId, reached, known, -⟩ := answers promoted member
    have listed := external.symm.mem_iff.mp (mem_map_of_mem member)
    obtain ⟨other, isOther, same⟩ := mem_map.mp listed
    obtain ⟨otherId, otherReached, -, otherSearches⟩ := answers other isOther
    have held := (identifier_eq_ok.mp otherReached).1
    have foremost := foremost_of_searches otherSearches (mem_of_mem_filter isOther) ⟨held, rfl⟩
    have named : app.extOf otherId other.2.property_id = promoted.1 := by
      simpa [translated, asked, held] using same
    rw [named] at foremost
    obtain ⟨found, isProperty, promotes⟩ := foremost.mem
    have unique : app.properties.lookup promoted.1 = some found := lookup_of_property isProperty
    rw [lookup_of_property (mem_of_mem_filter member), Option.some.injEq] at unique
    obtain ⟨component, property⟩ := promotes
    rw [← unique] at component property
    rw [(identifier_eq_ok.mp reached).1, Option.some.injEq] at component
    subst component
    exact ⟨compId, (identifier_eq_ok.mp reached).1, known, property ▸ foremost⟩
  · have found := getExternalPropertyId_eq_ok.mp
      (getExternalPropertyId_of_searches (searches entry member))
    by_cases empty : app.extOf app.assemblyController entry.1 = ""
    · have isRest : entry ∈ app.unpromoted := by
        rw [← rest]
        exact mem_filter.mpr ⟨member, decide_eq_true empty⟩
      have unpromoted := of_decide_eq_true (mem_filter.mp isRest).2
      have shows := query_single_iff.mp (values entry (mem_append_right _ (rest.symm ▸ isRest)) none)
      refine .inr ⟨unpromoted, ?_, shows.2.2⟩
      rcases found with foremost | ⟨-, passed⟩
      · obtain ⟨promotion, isProperty, promotes⟩ := foremost.mem
        exact absurd promotes (unpromoted _ isProperty)
      · exact fun promoted isProperty => (passed promoted isProperty).1
    · rcases found with foremost | ⟨none, -⟩
      · exact .inl ⟨_, empty, foremost⟩
      · exact absurd none empty

theorem queriesAll_iff : app.QueriesAll ↔ app.Translates :=
  ⟨QueriesAll.translates, Translates.queriesAll⟩

end Application

end Redhawk.Applications.Routing
