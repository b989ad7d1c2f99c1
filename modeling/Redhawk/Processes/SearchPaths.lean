import Mathlib.Data.List.Infix
import Redhawk.Library.Lists
import Redhawk.Library.Numerals

/-!
The search paths that `LoadableDevice_impl.cpp` extends: when a new entry is found in the
variable, and what is left in front of the old elements.
-/

namespace Redhawk.Processes

open Library List

def find (pattern : Text) : Text → Option Nat
  | [] => if pattern = [] then some 0 else none
  | c :: rest => if pattern <+: c :: rest then some 0 else (find pattern rest).map (· + 1)

/-- The boundaries of `checkPath` around the pattern at `start`. -/
def bounded (envpath pattern : Text) (start : Nat) : Bool :=
  if start ≠ 0 ∧ envpath[start - 1]? ≠ some ':' then false
  else start + pattern.length = envpath.length ∨ envpath[start + pattern.length]? = some ':'

def checkPath (envpath pattern : Text) : Bool := (find pattern envpath).any (bounded envpath pattern)

abbrev Environment := Text → Option Text

def Environment.path (env : Environment) (var : Text) : Text := (env var).getD []

def extended (current_path entry : Text) : Text :=
  if current_path = [] then entry else entry ++ ':' :: current_path

def modify (env : Environment) (mod : Text × Text) : Environment :=
  if checkPath (env.path mod.1) mod.2 then env
  else Function.update env mod.1 (some (extended (env.path mod.1) mod.2))

def update_path (modifications : List (Text × Text)) (env : Environment) : Environment :=
  modifications.foldl modify env

namespace EnvironmentPathParser

/-- `getline` gives no element after a last delimiter; it would be empty, and goes with the others. -/
def from_string (path : Text) : List Text := (path.splitOn ':').filter (· ≠ [])

def merge_front (path : Text) (paths : List Text) : List Text :=
  if paths.contains path then paths else path :: paths

def to_string (paths : List Text) : Text := (paths.flatMap (· ++ [':'])).dropLast

end EnvironmentPathParser

open EnvironmentPathParser

def merge_front_environment_path (environment_variable path : Text) (env : Environment) : Environment :=
  Function.update env environment_variable
    (some (to_string (merge_front path (from_string (env.path environment_variable)))))

def elements (path : Text) : List Text := if path = [] then [] else path.splitOn ':'

/-- The missing ones of the new entries in front of the old elements. -/
def merged (old entries : List Text) : List Text := entries.foldl (fun all entry => all.insert entry) old

def entriesOf (var : Text) (modifications : List (Text × Text)) : List Text :=
  (modifications.filter (·.1 = var)).map Prod.snd

structure ExactUpdate (env : Environment) (modifications : List (Text × Text)) : Prop where
  checked : ∀ mod ∈ modifications, (checkPath (env.path mod.1) mod.2 ↔ mod.2 ∈ elements (env.path mod.1))
  added : ∀ var, elements ((update_path modifications env).path var) =
    merged (elements (env.path var)) (entriesOf var modifications)
  again : update_path modifications (update_path modifications env) = update_path modifications env

structure ExactMerge (env : Environment) (var entry : Text) : Prop where
  added : elements ((merge_front_environment_path var entry env).path var) = merged (elements (env.path var)) [entry]
  again : merge_front_environment_path var entry (merge_front_environment_path var entry env) =
    merge_front_environment_path var entry env

/-- No other element that contains the entry stands before it. -/
def Found (all : List Text) (entry : Text) : Prop := all.find? (entry <:+: ·) = some entry

def Clear (old : Text) (entries : List Text) : Prop :=
  (∀ entry ∈ entries, ':' ∉ entry ∧ Found (merged (elements old) entries) entry) ∧ ¬(old = [] ∧ [] ∈ entries)

def Clean (old entry : Text) : Prop :=
  ':' ∉ entry ∧
    if entry = [] then from_string old ≠ [] ∧ (elements old = from_string old ∨ elements old = [] :: from_string old)
    else [] ∉ elements old

section Search

variable {pattern element rest : Text} {all : List Text}

theorem prefix_of_plain (plain : ':' ∉ pattern) (element rest : Text) :
    pattern <+: element ++ ':' :: rest ↔ pattern <+: element := by
  refine ⟨fun within => ?_, fun within => within.trans (prefix_append ..)⟩
  rcases prefix_or_prefix_of_prefix within (prefix_append_right_inj element |>.mpr (prefix_append [':'] rest)) with
    within | within
  · rcases prefix_concat_iff.mp within with rfl | within
    · simp at plain
    · exact within
  · exact absurd (within.subset (by simp)) plain

/-- `checkPath` over the text with a delimiter behind its last element. -/
def scan (pattern : Text) (atStart : Bool) : Text → Bool
  | [] => false
  | c :: rest =>
      if pattern <+: c :: rest then atStart && pattern ++ [':'] <+: c :: rest else scan pattern (c = ':') rest

theorem bounded_append (before : Text) (within : pattern <+: rest) :
    bounded (before ++ rest) pattern before.length =
      (before.getLast?.all (· = ':') && pattern ++ [':'] <+: rest ++ [':']) := by
  obtain ⟨behind, rfl⟩ := within
  have first : (before.length ≠ 0 ∧ (before ++ (pattern ++ behind))[before.length - 1]? ≠ some ':') ↔
      ¬before.getLast?.all (· = ':') := by
    rcases eq_nil_or_concat before with rfl | ⟨front, last, rfl⟩ <;> simp
  have last : before.length + pattern.length = (before ++ (pattern ++ behind)).length ∨
      (before ++ (pattern ++ behind))[before.length + pattern.length]? = some ':' ↔
      pattern ++ [':'] <+: pattern ++ behind ++ [':'] := by
    cases behind <;> simp [eq_comm]
  rw [bounded, if_congr first rfl rfl, Bool.eq_iff_iff]
  split <;> simp_all

theorem find_scan (plain : ':' ∉ pattern) (before text : Text) :
    ((find pattern text).any fun start => bounded (before ++ text) pattern (before.length + start)) =
      scan pattern (before.getLast?.all (· = ':')) (text ++ [':']) := by
  induction text generalizing before with
  | nil =>
      have head := prefix_of_plain plain [] []
      by_cases empty : pattern = []
      · subst empty
        simpa [find, scan] using bounded_append before (prefix_refl [])
      · simp_all [find, scan]
  | cons c text ih =>
      have head : pattern <+: c :: (text ++ [':']) ↔ pattern <+: c :: text := prefix_of_plain plain (c :: text) []
      by_cases within : pattern <+: c :: text
      · simpa [find, scan, head, within] using bounded_append before within
      · have next := ih (before ++ [c])
        simpa [find, scan, head, within, Option.any_map, Function.comp_def, Nat.add_assoc, Nat.add_comm 1] using next

theorem scan_element (plain : ':' ∉ pattern) (whole : ':' ∉ element) (atStart : Bool) :
    scan pattern atStart (element ++ ':' :: rest) =
      if pattern <:+: element then atStart && element = pattern else scan pattern true rest := by
  induction element generalizing atStart with
  | nil =>
      have head := prefix_of_plain plain [] rest
      simp_all [scan]
  | cons c element ih =>
      have head := prefix_of_plain plain (c :: element) rest
      rw [cons_append] at head ⊢
      rw [scan, if_congr head rfl rfl, if_congr infix_cons_iff rfl rfl]
      by_cases within : pattern <+: c :: element
      · rw [if_pos within, if_pos (.inl within)]
        obtain ⟨behind, split⟩ := within
        have ends : pattern ++ [':'] <+: c :: (element ++ ':' :: rest) ↔ c :: element = pattern := by
          rw [← cons_append, ← split, append_assoc, prefix_append_right_inj]
          cases behind with
          | nil => simp
          | cons first behind =>
              have other : ':' ≠ first := by
                rintro rfl
                exact whole (by simp [← split])
              simp [other]
        rw [decide_eq_decide.mpr ends]
      · have other : c :: element ≠ pattern := fun same => within (same ▸ prefix_refl _)
        rw [mem_cons, not_or] at whole
        rw [if_neg within, ih whole.2]
        simp [within, other, Ne.symm whole.1]

theorem joined (some : all ≠ []) : [':'].intercalate all ++ [':'] = all.flatMap (· ++ [':']) := by
  induction all with
  | nil => contradiction
  | cons first all ih => cases all <;> simp_all

theorem scan_elements (plain : ':' ∉ pattern) (whole : ∀ element ∈ all, ':' ∉ element) :
    scan pattern true (all.flatMap (· ++ [':'])) ↔ Found all pattern := by
  induction all with
  | nil => simp [scan, Found]
  | cons first all ih =>
      rw [forall_mem_cons] at whole
      rw [flatMap_cons, append_assoc, singleton_append, scan_element plain whole.1, Found, find?_cons]
      split <;> simp_all [Found]

theorem checkPath_iff (plain : ':' ∉ pattern) (text : Text) :
    checkPath text pattern ↔ Found (text.splitOn ':') pattern := by
  have scanned := find_scan plain [] text
  simp only [nil_append, length_nil, Nat.zero_add] at scanned
  rw [checkPath, scanned, ← scan_elements plain (fun _ => not_mem_of_mem_splitOn),
    ← joined (splitOn_ne_nil ':' text), intercalate_splitOn, getLast?_nil, Option.all_none]

end Search

section Elements

variable {path entry : Text} {all entries : List Text}

theorem plain_of_mem (member : entry ∈ elements path) : ':' ∉ entry := by
  rw [elements] at member
  split at member
  · contradiction
  · exact not_mem_of_mem_splitOn member

theorem checkPath_elements (plain : ':' ∉ entry) (some : ¬(path = [] ∧ entry = [])) :
    checkPath path entry ↔ Found (elements path) entry := by
  rw [checkPath_iff plain, elements]
  split
  · simp_all [Found]
  · rfl

theorem elements_extended (plain : ':' ∉ entry) (some : ¬(path = [] ∧ entry = [])) :
    elements (extended path entry) = entry :: elements path := by
  by_cases empty : path = []
  · simp_all [extended, elements, splitOn_eq_singleton]
  · simp [extended, elements, empty, splitOn_append_cons_self_of_not_mem plain]

theorem mem_merged {old : List Text} : entry ∈ merged old entries ↔ entry ∈ entries ∨ entry ∈ old := by
  induction entries generalizing old with
  | nil => simp [merged]
  | cons first entries ih => rw [merged, foldl_cons, ← merged, ih, mem_insert_iff, mem_cons]; tauto

theorem merged_split (old entries : List Text) :
    ∃ front, merged old entries = front ++ old ∧ ∀ entry ∈ front, entry ∉ old := by
  induction entries generalizing old with
  | nil => exact ⟨[], rfl, by simp⟩
  | cons first entries ih =>
      obtain ⟨front, split, fresh⟩ := ih (old.insert first)
      by_cases present : first ∈ old
      · rw [insert_of_mem present] at split fresh
        exact ⟨front, by rw [← split, merged, foldl_cons, insert_of_mem present]; rfl, fresh⟩
      · rw [insert_of_not_mem present] at split fresh
        refine ⟨front ++ [first], ?_, ?_⟩
        · rw [merged, foldl_cons, insert_of_not_mem present, ← merged, split, append_assoc, singleton_append]
        · simp_all [or_imp, forall_and]

theorem Found.of_merged {old : List Text} (found : Found (merged old entries) entry) (present : entry ∈ old) :
    Found old entry := by
  obtain ⟨front, split, fresh⟩ := merged_split old entries
  rw [Found, split, find?_append, Option.or_eq_some_iff] at found
  rcases found with early | ⟨_, found⟩
  · exact absurd present (fresh entry (mem_of_find?_eq_some early))
  · exact found

end Elements

section Update

variable {path entry var : Text} {entries : List Text} {env : Environment} {modifications : List (Text × Text)}

def step (path entry : Text) : Text := if checkPath path entry then path else extended path entry

theorem path_modify (env : Environment) (mod : Text × Text) (var : Text) :
    (modify env mod).path var = if mod.1 = var then step (env.path var) mod.2 else env.path var := by
  unfold modify step
  by_cases same : mod.1 = var
  · subst same
    rw [if_pos rfl]
    split <;> simp [Environment.path]
  · rw [if_neg same]
    split <;> simp [Environment.path, Function.update_of_ne (Ne.symm same)]

theorem path_update : (update_path modifications env).path var =
    (entriesOf var modifications).foldl step (env.path var) := by
  induction modifications generalizing env with
  | nil => rfl
  | cons mod modifications ih =>
      rw [update_path, foldl_cons, ← update_path, ih, path_modify]
      by_cases same : mod.1 = var <;> simp [entriesOf, same]

theorem mem_entriesOf : entry ∈ entriesOf var modifications ↔ (var, entry) ∈ modifications := by
  simp [entriesOf]

theorem length_step (path entry : Text) :
    path.length ≤ (step path entry).length ∧ ((step path entry).length = path.length → checkPath path entry) := by
  by_cases present : checkPath path entry
  · simp [step, present]
  · by_cases empty : path = []
    · subst empty
      cases entry with
      | nil => exact absurd rfl present
      | cons => simp [step, present, extended]
    · simp [step, present, extended, empty]
      omega

theorem length_run : path.length ≤ (entries.foldl step path).length := by
  induction entries generalizing path with
  | nil => exact le_rfl
  | cons entry entries ih => exact (length_step path entry).1.trans ih

theorem checkPath_of_unchanged (same : entries.foldl step path = path) (member : entry ∈ entries) :
    checkPath path entry := by
  induction entries with
  | nil => contradiction
  | cons first entries ih =>
      rw [foldl_cons] at same
      have grown := same ▸ @length_run (step path first) entries
      have present := (length_step path first).2 (le_antisymm grown (length_step path first).1)
      rw [step, if_pos present] at same
      rcases mem_cons.mp member with rfl | member
      · exact present
      · exact ih same member

theorem unchanged_iff : update_path modifications env = env ↔
    ∀ mod ∈ modifications, checkPath (env.path mod.1) mod.2 := by
  constructor
  · intro same mod member
    have unchanged := congrArg (fun env : Environment => env.path mod.1) same
    rw [path_update] at unchanged
    exact checkPath_of_unchanged unchanged (mem_entriesOf.mpr member)
  · intro present
    induction modifications with
    | nil => rfl
    | cons mod modifications ih =>
        rw [forall_mem_cons] at present
        rw [update_path, foldl_cons, modify, if_pos present.1]
        exact ih present.2

theorem elements_step (plain : ':' ∉ entry) (some : ¬(path = [] ∧ entry = []))
    (found : entry ∈ elements path → Found (elements path) entry) :
    elements (step path entry) = (elements path).insert entry := by
  have present := checkPath_elements plain some
  by_cases member : entry ∈ elements path
  · rw [step, if_pos (present.mpr (found member)), insert_of_mem member]
  · rw [step, if_neg fun check => member (mem_of_find?_eq_some (present.mp check)), insert_of_not_mem member,
      elements_extended plain some]

theorem elements_run (clear : Clear path entries) :
    elements (entries.foldl step path) = merged (elements path) entries := by
  induction entries generalizing path with
  | nil => rfl
  | cons entry entries ih =>
      obtain ⟨alone, some⟩ := clear
      obtain ⟨⟨plain, found⟩, others⟩ := forall_mem_cons.mp alone
      have next := elements_step plain (fun empty => some ⟨empty.1, empty.2 ▸ mem_cons_self⟩) found.of_merged
      rw [foldl_cons, ih ⟨by rwa [next], fun empty => ?_⟩, next]
      · rfl
      · rw [empty.1] at next
        exact not_mem_nil (next ▸ mem_insert_self)

theorem ne_nil_of_merged {old : List Text} (result : elements path = merged old entries)
    (member : entry ∈ entries) : path ≠ [] := by
  rintro rfl
  exact not_mem_nil (result ▸ mem_merged.mpr (.inl member))

theorem exactUpdate_iff : ExactUpdate env modifications ↔
    ∀ var, Clear (env.path var) (entriesOf var modifications) := by
  constructor
  · intro exact var
    refine ⟨fun entry member => ?_, ?_⟩
    · have result := exact.added var
      have plain := plain_of_mem (result ▸ mem_merged.mpr (.inl member))
      have present := unchanged_iff.mp exact.again _ (mem_entriesOf.mp member)
      rw [checkPath_elements plain fun empty => ne_nil_of_merged result member empty.1, result] at present
      exact ⟨plain, present⟩
    · rintro ⟨empty, member⟩
      have present := exact.checked _ (mem_entriesOf.mp member)
      rw [empty] at present
      exact not_mem_nil (present.mp rfl)
  · intro clear
    have result := fun var => path_update.symm ▸ elements_run (clear var)
    refine ⟨fun mod member => ?_, result, unchanged_iff.mpr fun mod member => ?_⟩
    all_goals
      have within : mod.2 ∈ entriesOf mod.1 modifications := mem_entriesOf.mpr member
      obtain ⟨plain, found⟩ := (clear mod.1).1 mod.2 within
    · rw [checkPath_elements plain fun empty => (clear mod.1).2 ⟨empty.1, empty.2 ▸ within⟩]
      exact ⟨mem_of_find?_eq_some, found.of_merged⟩
    · rw [checkPath_elements plain fun empty => ne_nil_of_merged (result mod.1) within empty.1, result]
      exact found

end Update

section Merge

variable {path entry var : Text} {all : List Text} {env : Environment}

theorem splitOn_to_string (whole : ∀ element ∈ all, ':' ∉ element) (some : all ≠ []) :
    (to_string all).splitOn ':' = all := by
  rw [to_string, ← joined some, dropLast_concat, splitOn_intercalate _ whole some]

theorem from_string_eq (path : Text) : from_string path = (elements path).filter (· ≠ []) := by
  rw [from_string, elements]
  split
  · simp_all
  · rfl

theorem merge_front_eq (path : Text) (paths : List Text) : merge_front path paths = paths.insert path :=
  rfl

theorem splitOn_merged (plain : ':' ∉ entry) (path : Text) :
    (to_string (merge_front entry (from_string path))).splitOn ':' = (from_string path).insert entry := by
  rw [merge_front_eq]
  refine splitOn_to_string (fun element member => ?_) (ne_nil_of_mem mem_insert_self)
  rcases mem_insert_iff.mp member with rfl | member
  · exact plain
  · exact not_mem_of_mem_splitOn (mem_of_mem_filter member)

theorem elements_merged (plain : ':' ∉ entry) (path : Text) :
    elements (to_string (merge_front entry (from_string path))) =
      if (from_string path).insert entry = [[]] then [] else (from_string path).insert entry := by
  have split := splitOn_merged plain path
  rw [elements, split]
  refine if_congr ⟨fun empty => ?_, fun single => ?_⟩ rfl rfl
  · rw [← split, empty, splitOn_nil]
  · rw [merge_front_eq, single]
    rfl

theorem merge_front_merged (plain : ':' ∉ entry) (path : Text) :
    merge_front entry (from_string (to_string (merge_front entry (from_string path)))) =
      merge_front entry (from_string path) := by
  have blank : [] ∉ from_string path := by simp [from_string]
  rw [from_string, splitOn_merged plain, merge_front_eq, merge_front_eq]
  by_cases empty : entry = []
  · subst empty
    rw [insert_of_not_mem blank, filter_cons_of_neg (by simp)]
    rw [filter_eq_self.mpr fun element member => by simpa using ne_of_mem_of_not_mem member blank]
    exact insert_of_not_mem blank
  · rw [filter_eq_self.mpr, insert_of_mem mem_insert_self]
    intro element member
    rcases mem_insert_iff.mp member with rfl | member
    · simpa using empty
    · simpa using ne_of_mem_of_not_mem member blank

theorem insert_kept_iff {kept old : List Text} (strip : kept = old.filter (· ≠ [])) (entry : Text) :
    (if kept.insert entry = [[]] then [] else kept.insert entry) = old.insert entry ↔
      if entry = [] then kept ≠ [] ∧ (old = kept ∨ old = [] :: kept) else [] ∉ old := by
  have blank : [] ∉ kept := by simp [strip]
  have clean : kept = old ↔ [] ∉ old := by
    rw [strip, filter_eq_self]
    exact ⟨fun all present => by simpa using all _ present, fun none _ member => by
      simpa using ne_of_mem_of_not_mem member none⟩
  by_cases empty : entry = []
  · subst empty
    simp only [if_pos, insert_of_not_mem blank, cons_inj_right]
    by_cases none : kept = []
    · rw [if_pos none]
      exact iff_of_false (ne_nil_of_mem mem_insert_self).symm fun both => both.1 none
    · by_cases present : [] ∈ old
      · have other : old ≠ kept := fun same => clean.mp same.symm present
        simp [insert_of_mem present, none, other, eq_comm]
      · have other : old ≠ [] :: kept := fun same => present (same ▸ mem_cons_self)
        simp [insert_of_not_mem present, none, other, eq_comm]
  · have member : entry ∈ kept ↔ entry ∈ old := by simp [strip, empty]
    have single : kept.insert entry ≠ [[]] := fun single =>
      empty (mem_singleton.mp (single ▸ mem_insert_self))
    rw [if_neg empty, if_neg single, ← clean]
    by_cases present : entry ∈ old
    · rw [insert_of_mem present, insert_of_mem (member.mpr present)]
    · rw [insert_of_not_mem present, insert_of_not_mem (mt member.mp present), cons_inj_right]

theorem exactMerge_iff : ExactMerge env var entry ↔ Clean (env.path var) entry := by
  have result : (merge_front_environment_path var entry env).path var =
      to_string (merge_front entry (from_string (env.path var))) := by
    simp [merge_front_environment_path, Environment.path]
  by_cases plain : ':' ∈ entry
  · refine iff_of_false (fun exact => ?_) fun clean => clean.1 plain
    exact plain_of_mem (exact.added ▸ mem_merged.mpr (.inl (mem_singleton_self entry))) plain
  · have added : elements ((merge_front_environment_path var entry env).path var) =
        merged (elements (env.path var)) [entry] ↔ Clean (env.path var) entry := by
      rw [result, elements_merged plain, merged, foldl_cons, foldl_nil, insert_kept_iff (from_string_eq _),
        Clean, and_iff_right plain]
    refine ⟨fun exact => added.mp exact.added, fun clean => ⟨added.mpr clean, ?_⟩⟩
    rw [merge_front_environment_path, result, merge_front_merged plain, merge_front_environment_path,
      Function.update_idem]

end Merge

/-- An update is exact if the entries, free of delimiters, can be found among the elements it leaves,
and a merge if no empty element is dropped. -/
theorem path_updates_exact_iff (env : Environment) :
    (∀ modifications, ExactUpdate env modifications ↔ ∀ var, Clear (env.path var) (entriesOf var modifications)) ∧
      ∀ var entry, ExactMerge env var entry ↔ Clean (env.path var) entry :=
  ⟨fun _ => exactUpdate_iff, fun _ _ => exactMerge_iff⟩

theorem longer_element_hides :
    ¬∀ (env : Environment) (modifications : List (Text × Text)), ExactUpdate env modifications := by
  intro all
  have exact := all (fun _ => some "/opt/lib64:/opt/lib".toList) [("LD_LIBRARY_PATH".toList, "/opt/lib".toList)]
  exact absurd ((exact.checked _ (mem_singleton_self _)).mpr (by decide)) (by decide)

end Redhawk.Processes
