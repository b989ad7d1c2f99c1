import Mathlib.Data.List.Nodup

/-!
Facts about lists in the shape a queue needs them, and a sequence that is read from the front and
written at the back.
-/

namespace Redhawk.Library

open List

variable {β : Type}

theorem split_cases {front rest before after : List β} {middle target : β}
    (same : front ++ middle :: rest = before ++ target :: after) :
    (∃ between, front = before ++ target :: between ∧ after = between ++ middle :: rest) ∨
      (before = front ∧ target = middle ∧ after = rest) ∨
      ∃ between, before = front ++ middle :: between ∧ rest = between ++ target :: after := by
  rcases append_eq_append_iff.mp same with ⟨between, rfl, tails⟩ | ⟨between, rfl, tails⟩
  · cases between with
    | nil =>
        obtain ⟨rfl, rfl⟩ := cons.inj tails
        exact .inr (.inl ⟨append_nil _, rfl, rfl⟩)
    | cons first between =>
        obtain ⟨rfl, rfl⟩ := cons.inj tails
        exact .inr (.inr ⟨between, rfl, rfl⟩)
  · cases between with
    | nil =>
        obtain ⟨rfl, rfl⟩ := cons.inj tails
        exact .inr (.inl ⟨(append_nil _).symm, rfl, rfl⟩)
    | cons first between =>
        obtain ⟨rfl, rfl⟩ := cons.inj tails
        exact .inl ⟨between, rfl, rfl⟩

theorem forall_mem_concat {property : β → Prop} {front : List β} {last : β} :
    (∀ entry ∈ front ++ [last], property entry) ↔ (∀ entry ∈ front, property entry) ∧ property last := by
  rw [forall_mem_append, forall_mem_singleton]

theorem not_mem_of_mem_splitOn [DecidableEq β] {text part : List β} {c : β}
    (member : part ∈ text.splitOn c) : c ∉ part := by
  induction text generalizing part with
  | nil =>
      rw [splitOn_nil, mem_singleton] at member
      simp [member]
  | cons first rest ih =>
      obtain ⟨head, others, split⟩ := exists_cons_of_ne_nil (splitOn_ne_nil c rest)
      rw [splitOn_cons_eq_if_modifyHead, split] at member
      split at member
      · rcases mem_cons.mp member with rfl | member
        · simp
        · exact ih (split ▸ member)
      · next other =>
          rcases mem_cons.mp member with rfl | member
          · have behind := ih (split ▸ mem_cons_self)
            have differs : c ≠ first := fun same => other (by simp [same])
            simp [differs, behind]
          · exact ih (split ▸ mem_cons_of_mem head member)

theorem countP_before_eq_iff (times : List Nat) {early late : Nat} (order : early ≤ late) :
    times.countP (fun time => decide (time < early)) = times.countP (fun time => decide (time < late)) ↔
      ∀ time ∈ times, ¬(early ≤ time ∧ time < late) := by
  have mono : ∀ rest : List Nat, rest.countP (fun time => decide (time < early)) ≤
      rest.countP (fun time => decide (time < late)) := fun rest =>
    countP_mono_left fun time _ less => by
      simp only [decide_eq_true_eq] at less ⊢
      omega
  induction times with
  | nil => simp
  | cons time rest ih =>
      have tail := mono rest
      rw [forall_mem_cons, countP_cons, countP_cons]
      refine Iff.trans ?_ (and_congr Iff.rfl ih)
      by_cases below : time < early
      · have less : time < late := by omega
        simp [below, less]
      · by_cases less : time < late
        · have between : early ≤ time := by omega
          simp only [below, less, between, decide_true, decide_false, if_true, Bool.false_eq_true,
            if_false, and_self, not_true, false_and, iff_false]
          omega
        · simp [below, less]

variable {Key : Type}

theorem find?_key [DecidableEq Key] {key : β → Key} {table : List β}
    (unique : (table.map key).Nodup) {k : Key} {entry : β} :
    table.find? (fun other => key other == k) = some entry ↔ entry ∈ table ∧ key entry = k := by
  induction table with
  | nil => simp
  | cons first rest ih =>
      rw [map_cons, nodup_cons] at unique
      by_cases same : key first = k
      · subst same
        simp only [find?_cons, beq_self_eq_true, Option.some.injEq, mem_cons]
        constructor
        · rintro rfl
          exact ⟨.inl rfl, rfl⟩
        · rintro ⟨equal | later, keys⟩
          · exact equal.symm
          · exact absurd (keys ▸ mem_map_of_mem later) unique.1
      · have differs : (key first == k) = false := by simpa using same
        simp only [find?_cons, differs, ih unique.2, mem_cons]
        constructor
        · rintro ⟨later, keys⟩
          exact ⟨.inr later, keys⟩
        · rintro ⟨rfl | later, keys⟩
          · exact absurd keys same
          · exact ⟨later, keys⟩

theorem filter_key_eq_singleton [DecidableEq Key] {key : β → Key} {table : List β}
    (unique : (table.map key).Nodup) {entry : β} (member : entry ∈ table) :
    (table.filter fun other => key other == key entry) = [entry] := by
  induction table with
  | nil => cases member
  | cons first rest ih =>
      rw [map_cons, nodup_cons] at unique
      rcases mem_cons.mp member with rfl | later
      · have none : (rest.filter fun other => key other == key entry) = [] := by
          rw [filter_eq_nil_iff]
          intro other otherMember same
          exact unique.1 (beq_iff_eq.mp same ▸ mem_map_of_mem otherMember)
        simp [none]
      · have differs : (key first == key entry) = false := by
          rw [beq_eq_false_iff_ne]
          intro same
          exact unique.1 (same ▸ mem_map_of_mem later)
        rw [filter_cons_of_neg (by simp [differs]), ih unique.2 later]

theorem filter_key_ne_of_split [DecidableEq Key] {key : β → Key} {front back : List β}
    {entry : β} (unique : ((front ++ entry :: back).map key).Nodup) :
    ((front ++ entry :: back).filter fun other => key other != key entry) = front ++ back := by
  rw [map_append, map_cons, nodup_middle, nodup_cons, ← map_append]
    at unique
  have kept : (front ++ back).filter (fun other => key other != key entry) = front ++ back := by
    rw [filter_eq_self]
    intro other member
    rw [bne_iff_ne]
    intro same
    exact unique.1 (same ▸ mem_map_of_mem member)
  rw [filter_append, filter_cons_of_neg (by simp), ← filter_append, kept]

theorem lookup_filter_ne {Key Value : Type} [DecidableEq Key] {table : List (Key × Value)}
    {key other : Key} (different : key ≠ other) :
    (table.filter fun entry => entry.1 != other).lookup key = table.lookup key := by
  induction table with
  | nil => rfl
  | cons entry rest ih =>
      by_cases removed : entry.1 = other
      · have missed : (key == entry.1) = false := by simpa [removed] using different
        rw [filter_cons_of_neg (by simp [removed]), ih, lookup_cons, missed]
      · rw [filter_cons_of_pos (by simp [removed]), lookup_cons, lookup_cons, ih]

theorem lookup_of_mem {Key Value : Type} [DecidableEq Key] {table : List (Key × Value)}
    (unique : (table.map Prod.fst).Nodup) {entry : Key × Value} (member : entry ∈ table) :
    table.lookup entry.1 = some entry.2 := by
  obtain ⟨front, back, rfl⟩ := append_of_mem member
  refine lookup_eq_some_iff.mpr ⟨front, back, rfl, fun other before => ?_⟩
  rw [map_append, map_cons, nodup_middle, nodup_cons] at unique
  rw [bne_iff_ne]
  intro same
  exact unique.1 (mem_append_left _ (same ▸ mem_map_of_mem before))

theorem find?_eq_some_of_unique {test : β → Bool} {table : List β}
    (unique : ∀ first ∈ table, ∀ second ∈ table,
      test first = true → test second = true → first = second) {entry : β} :
    table.find? test = some entry ↔ entry ∈ table ∧ test entry = true := by
  constructor
  · intro found
    exact ⟨mem_of_find?_eq_some found, find?_some found⟩
  · rintro ⟨member, passes⟩
    cases found : table.find? test with
    | none =>
        rw [find?_eq_none] at found
        exact absurd passes (found entry member)
    | some other =>
        rw [unique other (mem_of_find?_eq_some found) entry member (find?_some found) passes]

theorem perm_of_find? {test : β → Bool} {table : List β} {entry : β}
    (found : table.find? test = some entry) : table.Perm (entry :: table.eraseP test) := by
  induction table with
  | nil => cases found
  | cons first rest ih =>
      by_cases passes : test first = true
      · rw [find?_cons_of_pos passes, Option.some.injEq] at found
        rw [eraseP_cons_of_pos passes, found]
      · rw [find?_cons_of_neg passes] at found
        rw [eraseP_cons_of_neg passes]
        exact ((ih found).cons first).trans (Perm.swap _ _ _)

theorem perm_cons_filter_key_ne [DecidableEq Key] {key : β → Key} {table : List β}
    (unique : (table.map key).Nodup) {entry : β} (member : entry ∈ table) :
    table.Perm (entry :: table.filter fun other => key other != key entry) := by
  obtain ⟨front, back, rfl⟩ := append_of_mem member
  rw [filter_key_ne_of_split unique]
  exact perm_middle

variable {γ : Type}

theorem mapM_eq_some_iff {f : β → Option γ} {table : List β} {mapped : List γ} :
    table.mapM f = some mapped ↔ Forall₂ (fun entry image => f entry = some image) table mapped := by
  induction table generalizing mapped with
  | nil =>
      rw [mapM_nil, forall₂_nil_left_iff]
      exact ⟨fun same => (Option.some.inj same).symm, fun same => congrArg some same.symm⟩
  | cons first rest ih =>
      rw [mapM_cons]
      constructor
      · intro result
        obtain ⟨image, isImage, result⟩ := Option.bind_eq_some_iff.mp result
        obtain ⟨images, areImages, result⟩ := Option.bind_eq_some_iff.mp result
        cases result
        exact .cons isImage (ih.mp areImages)
      · rintro (_ | ⟨isImage, areImages⟩)
        rw [isImage, ih.mpr areImages]
        rfl

section

variable {Error γ : Type} {step : Except Error β}

theorem bind_eq_ok_iff {next : β → Except Error γ} {result : γ} :
    step >>= next = .ok result ↔ ∃ value, step = .ok value ∧ next value = .ok result := by
  cases step <;> simp [bind, Except.bind]

theorem map_eq_ok_iff {f : β → γ} {result : γ} :
    step.map f = .ok result ↔ ∃ value, step = .ok value ∧ f value = result := by
  cases step <;> simp [Except.map]

theorem map_eq_error_iff {f : β → γ} {error : Error} :
    step.map f = .error error ↔ step = .error error := by
  cases step <;> simp [Except.map]

end

theorem mapM_eq_ok_iff {γ Error : Type} {f : β → Except Error γ} {table : List β} {mapped : List γ} :
    table.mapM f = .ok mapped ↔ Forall₂ (fun entry image => f entry = .ok image) table mapped := by
  induction table generalizing mapped with
  | nil =>
      rw [mapM_nil, forall₂_nil_left_iff]
      exact ⟨fun same => (Except.ok.inj same).symm, fun same => congrArg Except.ok same.symm⟩
  | cons first rest ih =>
      rw [mapM_cons]
      constructor
      · intro result
        obtain ⟨image, isImage, result⟩ := bind_eq_ok_iff.mp result
        obtain ⟨images, areImages, result⟩ := bind_eq_ok_iff.mp result
        cases result
        exact .cons isImage (ih.mp areImages)
      · rintro (_ | ⟨isImage, areImages⟩)
        rw [isImage, ih.mpr areImages]
        rfl

theorem forall₂_append_iff {R : β → γ → Prop} {front back : List β}
    {frontImages backImages : List γ} (lengths : front.length = frontImages.length) :
    Forall₂ R (front ++ back) (frontImages ++ backImages) ↔
      Forall₂ R front frontImages ∧ Forall₂ R back backImages := by
  induction front generalizing frontImages with
  | nil =>
      cases frontImages with
      | nil => simp
      | cons image others => simp at lengths
  | cons first rest ih =>
      cases frontImages with
      | nil => simp at lengths
      | cons image others =>
          rw [cons_append, cons_append, forall₂_cons, forall₂_cons,
            ih (by simpa using lengths), and_assoc]

theorem filter_eraseP {β : Type} (found : β → Bool) (items : List β) :
    (items.eraseP found).filter found = (items.filter found).tail := by
  induction items with
  | nil => rfl
  | cons item rest ih =>
      cases here : found item with
      | true => simp [here]
      | false => simp [here, ih]

theorem eraseP_key [DecidableEq Key] {key : β → Key} {table : List β}
    (distinct : (table.map key).Nodup) (wanted : Key) :
    (table.eraseP fun entry => key entry == wanted) = table.filter fun entry => !(key entry == wanted) := by
  induction table with
  | nil => rfl
  | cons entry rest ih =>
      rw [map_cons, nodup_cons] at distinct
      by_cases here : key entry = wanted
      · have others : ∀ other ∈ rest, (!(key other == wanted)) = true := fun other member => by
          have different : key other ≠ wanted := fun same =>
            distinct.1 (here ▸ same ▸ mem_map_of_mem member)
          simpa using different
        simp [here, filter_eq_self.mpr others]
      · simp [here, ih distinct.2]

theorem flatMap_filter_of_nil {keep : β → Bool} {parts : β → List γ} {items : List β}
    (bare : ∀ item ∈ items, keep item = false → parts item = []) :
    (items.filter keep).flatMap parts = items.flatMap parts := by
  induction items with
  | nil => rfl
  | cons item rest ih =>
      have later := ih fun other member => bare other (mem_cons_of_mem item member)
      cases here : keep item with
      | true => simp [here, later]
      | false => simp [here, later, bare item mem_cons_self here]

theorem foldl_range_modify (change : β → β) (items : List β) :
    (range items.length).foldl (fun items index => items.modify index change) items = items.map change := by
  have upTo : ∀ count position : Nat,
      ((range count).foldl (fun items index => items.modify index change) items)[position]? =
        items[position]?.map fun item => if position < count then change item else item := by
    intro count position
    induction count with
    | zero => simp
    | succ count ih =>
        rw [range_succ, foldl_append, foldl_cons, foldl_nil, getElem?_modify, ih]
        cases items[position]? with
        | none => rfl
        | some item =>
            by_cases last : count = position
            · simp [last]
            · have bound : position < count + 1 ↔ position < count := by omega
              simp [last, bound]
  apply ext_getElem?
  intro position
  rw [upTo, getElem?_map]
  cases found : items[position]? with
  | none => rfl
  | some item =>
      have bound : position < items.length := (List.getElem?_eq_some_iff.mp found).1
      simp [bound]

theorem foldl_modify_index (change : γ → β → β) (index : Nat) (items : List γ) (table : List β) :
    items.foldl (fun table item => table.modify index (change item)) table =
      table.modify index fun entry => items.foldl (fun entry item => change item entry) entry := by
  induction items generalizing table with
  | nil =>
      apply ext_getElem?
      simp [getElem?_modify]
  | cons item rest ih =>
      simp only [foldl_cons, ih, modify_modify_eq]
      rfl

theorem foldl_map (change : γ → β → β) (items : List γ) (table : List β) :
    items.foldl (fun table item => table.map (change item)) table =
      table.map fun entry => items.foldl (fun entry item => change item entry) entry := by
  induction items generalizing table with
  | nil => simp
  | cons item rest ih => simp [ih, Function.comp_def]

def modifyFirst (found : β → Bool) (change : β → β) (table : List β) : List β :=
  match table.findIdx? found with
  | some index => table.modify index change
  | none => table

theorem modifyFirst_cons (found : β → Bool) (change : β → β) (entry : β) (rest : List β) :
    modifyFirst found change (entry :: rest) =
      if found entry then change entry :: rest else entry :: modifyFirst found change rest := by
  unfold modifyFirst
  rw [findIdx?_cons]
  by_cases here : found entry = true
  · simp [here]
  · cases rest.findIdx? found <;> simp [here]

theorem modifyFirst_key [DecidableEq Key] {key : β → Key} {table : List β}
    (distinct : (table.map key).Nodup) (wanted : Key) (change : β → β) :
    modifyFirst (fun entry => key entry == wanted) change table =
      table.map fun entry => if key entry = wanted then change entry else entry := by
  induction table with
  | nil => rfl
  | cons entry rest ih =>
      rw [map_cons, nodup_cons] at distinct
      rw [modifyFirst_cons, map_cons, ih distinct.2]
      by_cases here : key entry = wanted
      · have others : rest.map (fun other => if key other = wanted then change other else other) =
            rest := by
          conv_rhs => rw [← map_id rest]
          refine map_congr_left fun other member => if_neg fun same => distinct.1 ?_
          rw [here, ← same]
          exact mem_map_of_mem member
        simp [here, others]
      · simp [here]

theorem foldl_modifyFirst [DecidableEq Key] {key : β → Key} {change : Key → β → β}
    (keeps : ∀ wanted entry, key (change wanted entry) = key entry) {wanted : List Key}
    (once : wanted.Nodup) {table : List β} (distinct : (table.map key).Nodup) :
    wanted.foldl (fun table name =>
        modifyFirst (fun entry => key entry == name) (change name) table) table =
      table.map fun entry => if key entry ∈ wanted then change (key entry) entry else entry := by
  induction wanted generalizing table with
  | nil => simp
  | cons name rest ih =>
      rw [nodup_cons] at once
      have keys : (table.map fun entry => if key entry = name then change name entry else entry).map
          key = table.map key := by
        rw [map_map]
        refine map_congr_left fun entry _ => ?_
        simp only [Function.comp_apply]
        split
        · exact keeps name entry
        · rfl
      rw [foldl_cons, modifyFirst_key distinct, ih once.2 (keys ▸ distinct), map_map]
      refine map_congr_left fun entry _ => ?_
      by_cases here : key entry = name
      · simp [here, keeps, once.1]
      · simp [here]

section Slices

section

variable {γ : Type} {f : β → List γ} {width : Nat} (uniform : ∀ item, (f item).length = width)
  (items : List β) (count : Nat)

include uniform

theorem take_flatMap_uniform : (items.take count).flatMap f = (items.flatMap f).take (count * width) := by
  induction items generalizing count with
  | nil => simp
  | cons item rest ih =>
      cases count with
      | zero => simp
      | succ count =>
          have within : (count + 1) * width = (f item).length + count * width := by
            rw [uniform, Nat.succ_mul, Nat.add_comm]
          rw [take_succ_cons, flatMap_cons, flatMap_cons, ih, within, take_length_add_append]

theorem drop_flatMap_uniform : (items.drop count).flatMap f = (items.flatMap f).drop (count * width) := by
  induction items generalizing count with
  | nil => simp
  | cons item rest ih =>
      cases count with
      | zero => simp
      | succ count =>
          have within : (count + 1) * width = (f item).length + count * width := by
            rw [uniform, Nat.succ_mul, Nat.add_comm]
          rw [drop_succ_cons, flatMap_cons, ih, within, drop_length_add_append]

end

def slices (items : List β) : List Nat → List (List β)
  | [] => []
  | [start] => [items.drop start]
  | start :: next :: rest => (items.take next).drop start :: slices items (next :: rest)

variable (items : List β)

theorem length_slices (cuts : List Nat) : (slices items cuts).length = cuts.length := by
  fun_induction slices items cuts with
  | case1 => rfl
  | case2 start => rfl
  | case3 start next rest ih => simp [ih]

theorem slices_flatten {start : Nat} {rest : List Nat} (sorted : (start :: rest).Pairwise (· < ·)) :
    (slices items (start :: rest)).flatten = items.drop start := by
  induction rest generalizing start with
  | nil => simp [slices]
  | cons next rest ih =>
      obtain ⟨first, later⟩ := pairwise_cons.mp sorted
      have ordered : start < next := first next mem_cons_self
      have join := take_append_drop (next - start) (items.drop start)
      rw [drop_drop, Nat.add_sub_of_le (Nat.le_of_lt ordered)] at join
      rw [slices, flatten_cons, ih later, drop_take, join]

theorem slices_start {start : Nat} {rest : List Nat}
    (sorted : (start :: rest).Pairwise (· < ·)) (inside : ∀ cut ∈ start :: rest, cut ≤ items.length)
    {place : Nat} (bound : place < (start :: rest).length) :
    start + ((slices items (start :: rest)).take place).flatten.length = (start :: rest)[place] := by
  induction rest generalizing start place with
  | nil =>
      obtain rfl : place = 0 := by simpa using bound
      rfl
  | cons next rest ih =>
      cases place with
      | zero => rfl
      | succ place =>
          obtain ⟨first, later⟩ := pairwise_cons.mp sorted
          obtain ⟨_, within⟩ := forall_mem_cons.mp inside
          have ordered : start < next := first next mem_cons_self
          have below : next ≤ items.length := within next mem_cons_self
          have continues := ih later within (Nat.lt_of_succ_lt_succ bound)
          rw [slices, take_succ_cons, flatten_cons, length_append, length_drop,
            length_take, getElem_cons_succ, ← continues]
          omega

theorem slices_flatMap {γ : Type} {f : β → List γ} {width : Nat}
    (uniform : ∀ item, (f item).length = width) (items : List β) (cuts : List Nat) :
    (slices items cuts).map (·.flatMap f) = slices (items.flatMap f) (cuts.map (· * width)) := by
  fun_induction slices items cuts with
  | case1 => rfl
  | case2 start => simp [slices, drop_flatMap_uniform uniform]
  | case3 start next rest ih =>
      rw [map_cons, ih, drop_flatMap_uniform uniform, take_flatMap_uniform uniform]
      rfl

end Slices

structure Tape (β : Type) where
  passed : List β
  ahead : List β
deriving DecidableEq

namespace Tape

def content (tape : Tape β) : List β := tape.passed ++ tape.ahead

def advance (count : Nat) (tape : Tape β) : Tape β :=
  ⟨tape.passed ++ tape.ahead.take count, tape.ahead.drop count⟩

def extend (items : List β) (tape : Tape β) : Tape β := ⟨tape.passed, tape.ahead ++ items⟩

@[simp] theorem content_advance (count : Nat) (tape : Tape β) : (tape.advance count).content = tape.content := by
  simp [advance, content]

@[simp] theorem advance_zero (tape : Tape β) : tape.advance 0 = tape := by
  simp [advance]

@[simp] theorem extend_nil (tape : Tape β) : tape.extend [] = tape := by
  simp [extend]

theorem advance_advance (first second : Nat) (tape : Tape β) :
    (tape.advance first).advance second = tape.advance (first + second) := by
  simp [advance, take_add]

theorem extend_extend (first second : List β) (tape : Tape β) :
    (tape.extend first).extend second = tape.extend (first ++ second) := by
  simp [extend]

theorem advance_extend {count : Nat} {tape : Tape β} (there : count ≤ tape.ahead.length)
    (items : List β) : (tape.extend items).advance count = (tape.advance count).extend items := by
  simp only [advance, extend, take_append_of_le_length there, drop_append_of_le_length there]

end Tape

end Redhawk.Library
