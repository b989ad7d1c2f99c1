import Mathlib.Data.List.Basic

/-!
Code that runs behind one lock that is not reentrant, that may raise, and that calls others whose
answers it cannot foresee; and the rules for what it does to the lock.
-/

namespace Redhawk.Library

/-- The state behind the lock, and the calls made to others, each with its answer (`none` for an
exception). -/
structure Guarded (Data Call Reply : Type) where
  locked : Bool
  data : Data
  calls : List (Call × Option Reply)

/-- `stuck` waits for the lock that it holds itself. -/
inductive Outcome (World α : Type)
  | returned (value : α) (world : World)
  | raised (world : World)
  | stuck

def Outcome.state {World α : Type} : Outcome World α → Option World
  | .returned _ world => some world
  | .raised world => some world
  | .stuck => none

def Code (Data Call Reply α : Type) :=
  Guarded Data Call Reply → Outcome (Guarded Data Call Reply) α

namespace Code

variable {Data Call Reply α β : Type}

protected def pure (value : α) : Code Data Call Reply α := fun world => .returned value world

protected def bind (code : Code Data Call Reply α) (next : α → Code Data Call Reply β) :
    Code Data Call Reply β := fun world =>
  match code world with
  | .returned value world => next value world
  | .raised world => .raised world
  | .stuck => .stuck

def raise : Code Data Call Reply α := fun world => .raised world

def look : Code Data Call Reply Data := fun world => .returned world.data world

def change (update : Data → Data) : Code Data Call Reply Unit := fun world =>
  .returned () { world with data := update world.data }

def acquire : Code Data Call Reply Unit := fun world =>
  if world.locked then .stuck else .returned () { world with locked := true }

def release : Code Data Call Reply Unit := fun world =>
  if world.locked then .returned () { world with locked := false } else .raised world

def remote (answer : Nat → Call → Option Reply) (call : Call) : Code Data Call Reply Reply :=
  fun world =>
    let reply := answer world.calls.length call
    let world := { world with calls := world.calls ++ [(call, reply)] }
    match reply with
    | some value => .returned value world
    | none => .raised world

def tryExcept (body handler : Code Data Call Reply α) : Code Data Call Reply α := fun world =>
  match body world with
  | .raised world => handler world
  | outcome => outcome

def tryFinally (body : Code Data Call Reply α) (last : Code Data Call Reply Unit) :
    Code Data Call Reply α := fun world =>
  match body world with
  | .returned value world => last.bind (fun _ => Code.pure value) world
  | .raised world => last.bind (fun _ => raise) world
  | .stuck => .stuck

def synchronized (body : Code Data Call Reply α) : Code Data Call Reply α :=
  acquire.bind fun _ => tryFinally body release

def forEach (items : List β) (body : β → Code Data Call Reply Unit) : Code Data Call Reply Unit :=
  match items with
  | [] => Code.pure ()
  | item :: rest => (body item).bind fun _ => forEach rest body

def foldEach {State : Type} (items : List β) (body : β → State → Code Data Call Reply State)
    (state : State) : Code Data Call Reply State :=
  match items with
  | [] => Code.pure state
  | item :: rest => (body item state).bind fun state => foldEach rest body state

def within {Part : Type} (part : Data → Part) (update : Part → Data → Data)
    (code : Code Part Call Reply α) : Code Data Call Reply α := fun world =>
  let outside := fun after : Guarded Part Call Reply =>
    { after with data := update after.data world.data }
  match code { world with data := part world.data } with
  | .returned value after => .returned value (outside after)
  | .raised after => .raised (outside after)
  | .stuck => .stuck

def step {Event : Type} (perform : Event → Code Data Call Reply Unit) (event : Event)
    (state : Option (Guarded Data Call Reply)) : Option (Guarded Data Call Reply) :=
  state.bind fun world => (perform event world).state

section Keeping

def Ended (held : Bool) : Outcome (Guarded Data Call Reply) α → Prop
  | .returned _ world => world.locked = held
  | .raised world => world.locked = held
  | .stuck => False

def Keeps (held : Bool) (code : Code Data Call Reply α) : Prop :=
  ∀ world, world.locked = held → Ended held (code world)

variable {held : Bool} {code : Code Data Call Reply α} {next : α → Code Data Call Reply β}

theorem ended_bind {world : Guarded Data Call Reply} (first : Ended held (code world))
    (second : ∀ value after, after.locked = held → Ended held (next value after)) :
    Ended held (code.bind next world) := by
  unfold Code.bind
  cases result : code world with
  | returned value after =>
      rw [result] at first
      exact second value after first
  | raised after =>
      rw [result] at first
      exact first
  | stuck =>
      rw [result] at first
      exact first

theorem ended_bind_pure {world : Guarded Data Call Reply} (value : β) :
    Ended held (code.bind (fun _ => Code.pure value) world) ↔ Ended held (code world) := by
  unfold Code.bind
  cases code world <;> exact Iff.rfl

theorem Keeps.bind (first : code.Keeps held) (second : ∀ value, (next value).Keeps held) :
    (code.bind next).Keeps held := fun world taken =>
  ended_bind (first world taken) fun value after kept => second value after kept

@[simp] theorem keeps_pure (value : α) :
    (Code.pure value : Code Data Call Reply α).Keeps held := fun _ taken => taken

@[simp] theorem keeps_raise : (raise : Code Data Call Reply α).Keeps held := fun _ taken => taken

@[simp] theorem keeps_look : (look : Code Data Call Reply Data).Keeps held := fun _ taken => taken

@[simp] theorem keeps_change (update : Data → Data) :
    (change update : Code Data Call Reply Unit).Keeps held := fun _ taken => taken

@[simp] theorem keeps_remote (answer : Nat → Call → Option Reply) (call : Call) :
    (remote answer call : Code Data Call Reply Reply).Keeps held := by
  intro world taken
  unfold remote
  dsimp only
  split <;> exact taken

theorem Keeps.tryExcept {body handler : Code Data Call Reply α} (first : body.Keeps held)
    (second : handler.Keeps held) : (tryExcept body handler).Keeps held := by
  intro world taken
  have ended := first world taken
  unfold Code.tryExcept
  cases result : body world with
  | returned value after =>
      rw [result] at ended
      exact ended
  | raised after =>
      rw [result] at ended
      exact second after ended
  | stuck =>
      rw [result] at ended
      exact ended

theorem Keeps.forEach {items : List β} {body : β → Code Data Call Reply Unit}
    (each : ∀ item ∈ items, (body item).Keeps held) : (forEach items body).Keeps held := by
  induction items with
  | nil => exact keeps_pure ()
  | cons item rest ih =>
      exact .bind (each item List.mem_cons_self) fun _ =>
        ih fun other member => each other (List.mem_cons_of_mem item member)

theorem Keeps.foldEach {State : Type} {items : List β} {body : β → State → Code Data Call Reply State}
    (each : ∀ item ∈ items, ∀ state, (body item state).Keeps held) (state : State) :
    (foldEach items body state).Keeps held := by
  induction items generalizing state with
  | nil => exact keeps_pure state
  | cons item rest ih =>
      exact .bind (each item List.mem_cons_self state) fun after =>
        ih (fun other member => each other (List.mem_cons_of_mem item member)) after

theorem ended_synchronized {world : Guarded Data Call Reply} (free : world.locked = false)
    (inside : Ended true (code { world with locked := true })) :
    Ended false (synchronized code world) := by
  unfold Code.synchronized Code.bind acquire tryFinally
  rw [if_neg (by simp [free])]
  dsimp only
  cases result : code { world with locked := true } with
  | returned value after =>
      rw [result] at inside
      have taken : after.locked = true := inside
      simp [Code.bind, release, taken, Code.pure, Ended]
  | raised after =>
      rw [result] at inside
      have taken : after.locked = true := inside
      simp [Code.bind, release, taken, raise, Ended]
  | stuck =>
      rw [result] at inside
      exact inside

theorem Keeps.synchronized (inside : code.Keeps true) : (synchronized code).Keeps false :=
  fun world free => ended_synchronized free (inside { world with locked := true } rfl)

theorem Keeps.ite {condition : Prop} [Decidable condition] {other : Code Data Call Reply α}
    (yes : condition → code.Keeps held) (no : ¬condition → other.Keeps held) :
    (if condition then code else other).Keeps held := by
  split
  · exact yes ‹_›
  · exact no ‹_›

theorem Keeps.within {Part : Type} {part : Data → Part} {update : Part → Data → Data}
    {code : Code Part Call Reply α} (inside : code.Keeps held) :
    (within part update code).Keeps held := by
  intro world taken
  have ended := inside { world with data := part world.data } taken
  unfold Code.within
  split
  all_goals
    rename_i result
    rw [result] at ended
    exact ended

end Keeping

section Returning

variable {held : Bool} {code : Code Data Call Reply α} {next : α → Code Data Call Reply β}

def Returns (held : Bool) (code : Code Data Call Reply α) : Prop :=
  ∀ world, world.locked = held → ∃ value after, code world = .returned value after ∧ after.locked = held

theorem Returns.keeps (returns : code.Returns held) : code.Keeps held := by
  intro world taken
  obtain ⟨value, after, result, kept⟩ := returns world taken
  rw [result]
  exact kept

theorem Returns.bind (first : code.Returns held) (second : ∀ value, (next value).Returns held) :
    (code.bind next).Returns held := by
  intro world taken
  obtain ⟨value, after, result, kept⟩ := first world taken
  simp only [Code.bind, result]
  exact second value after kept

@[simp] theorem returns_pure (value : α) : (Code.pure value : Code Data Call Reply α).Returns held :=
  fun world taken => ⟨value, world, rfl, taken⟩

@[simp] theorem returns_look : (look : Code Data Call Reply Data).Returns held :=
  fun world taken => ⟨world.data, world, rfl, taken⟩

@[simp] theorem returns_change (update : Data → Data) :
    (change update : Code Data Call Reply Unit).Returns held :=
  fun world taken => ⟨(), { world with data := update world.data }, rfl, taken⟩

theorem Returns.tryExcept {body handler : Code Data Call Reply α} (first : body.Keeps held)
    (second : handler.Returns held) : (tryExcept body handler).Returns held := by
  intro world taken
  have ended := first world taken
  unfold Code.tryExcept
  cases result : body world with
  | returned value after =>
      rw [result] at ended
      exact ⟨value, after, rfl, ended⟩
  | raised after =>
      rw [result] at ended
      exact second after ended
  | stuck =>
      rw [result] at ended
      exact ended.elim

theorem Returns.forEach {items : List β} {body : β → Code Data Call Reply Unit}
    (each : ∀ item ∈ items, (body item).Returns held) : (forEach items body).Returns held := by
  induction items with
  | nil => exact returns_pure ()
  | cons item rest ih =>
      exact .bind (each item List.mem_cons_self) fun _ =>
        ih fun other member => each other (List.mem_cons_of_mem item member)

theorem Returns.ite {condition : Prop} [Decidable condition] {other : Code Data Call Reply α}
    (yes : condition → code.Returns held) (no : ¬condition → other.Returns held) :
    (if condition then code else other).Returns held := by
  split
  · exact yes ‹_›
  · exact no ‹_›

theorem Returns.within {Part : Type} {part : Data → Part} {update : Part → Data → Data}
    {code : Code Part Call Reply α} (inside : code.Returns held) :
    (within part update code).Returns held := by
  intro world taken
  obtain ⟨value, after, result, kept⟩ := inside { world with data := part world.data } taken
  exact ⟨value, { after with data := update after.data world.data }, by simp only [Code.within, result], kept⟩

end Returning

section Yielding

variable {code : Code Data Call Reply α} {next : α → Code Data Call Reply β}
  {world : Guarded Data Call Reply} {post : α → Guarded Data Call Reply → Prop}

def Yields (code : Code Data Call Reply α) (world : Guarded Data Call Reply)
    (post : α → Guarded Data Call Reply → Prop) : Prop :=
  match code world with
  | .returned value after => post value after
  | _ => False

theorem Yields.mono (yields : code.Yields world post) {other : α → Guarded Data Call Reply → Prop}
    (weaker : ∀ value after, post value after → other value after) : code.Yields world other := by
  unfold Yields at yields ⊢
  split at yields
  · exact weaker _ _ yields
  · exact yields.elim

@[simp] theorem yields_pure {value : α} :
    (Code.pure value).Yields world post ↔ post value world := Iff.rfl

@[simp] theorem yields_look {post : Data → Guarded Data Call Reply → Prop} :
    look.Yields world post ↔ post world.data world := Iff.rfl

@[simp] theorem yields_change {update : Data → Data} {post : Unit → Guarded Data Call Reply → Prop} :
    (change update).Yields world post ↔ post () { world with data := update world.data } := Iff.rfl

@[simp] theorem yields_bind {post : β → Guarded Data Call Reply → Prop} :
    (code.bind next).Yields world post ↔ code.Yields world fun value after => (next value).Yields after post := by
  unfold Yields Code.bind
  cases code world <;> exact Iff.rfl

theorem yields_remote {answer : Nat → Call → Option Reply} {call : Call} {reply : Reply}
    {post : Reply → Guarded Data Call Reply → Prop}
    (answers : answer world.calls.length call = some reply)
    (holds : post reply { world with calls := world.calls ++ [(call, some reply)] }) :
    (remote answer call).Yields world post := by
  simpa only [Yields, remote, answers] using holds

theorem Yields.tryExcept {handler : Code Data Call Reply α} (yields : code.Yields world post) :
    (tryExcept code handler).Yields world post := by
  unfold Yields Code.tryExcept at *
  cases result : code world <;> simp_all

theorem yields_acquire {post : Unit → Guarded Data Call Reply → Prop} (free : world.locked = false)
    (holds : post () { world with locked := true }) : acquire.Yields world post := by
  simpa [Yields, acquire, free] using holds

theorem yields_release {post : Unit → Guarded Data Call Reply → Prop} (taken : world.locked = true)
    (holds : post () { world with locked := false }) : release.Yields world post := by
  simpa [Yields, release, taken] using holds

theorem Yields.synchronized (free : world.locked = false)
    (inside : code.Yields { world with locked := true } fun value after =>
      after.locked = true ∧ post value { after with locked := false }) :
    (synchronized code).Yields world post := by
  refine yields_bind.mpr (yields_acquire free ?_)
  unfold Yields Code.tryFinally at *
  cases result : code { world with locked := true } with
  | returned value after =>
      rw [result] at inside
      simpa [Code.bind, release, inside.1, Code.pure] using inside.2
  | raised after =>
      rw [result] at inside
      exact inside.elim
  | stuck =>
      rw [result] at inside
      exact inside.elim

theorem yields_forEach {items : List β} {body : β → Code Data Call Reply Unit}
    (invariant : List β → Guarded Data Call Reply → Prop) (start : invariant [] world)
    (step : ∀ done item, done ++ [item] <+: items → ∀ world, invariant done world →
      (body item).Yields world fun _ => invariant (done ++ [item])) :
    (forEach items body).Yields world fun _ => invariant items := by
  suffices general : ∀ done rest world, done ++ rest = items → invariant done world →
      (forEach rest body).Yields world fun _ => invariant items from general [] items world rfl start
  intro done rest
  induction rest generalizing done with
  | nil =>
      intro world whole holds
      rw [List.append_nil] at whole
      exact whole ▸ holds
  | cons item rest ih =>
      intro world whole holds
      refine yields_bind.mpr ((step done item ⟨rest, by simpa using whole⟩ world holds).mono
        fun _ after kept => ih (done ++ [item]) after (by simpa using whole) kept)

theorem yields_foldEach {State : Type} {items : List β}
    {body : β → State → Code Data Call Reply State} {state : State}
    (invariant : List β → State → Guarded Data Call Reply → Prop) (start : invariant [] state world)
    (step : ∀ done item, done ++ [item] <+: items → ∀ state world, invariant done state world →
      (body item state).Yields world (invariant (done ++ [item]))) :
    (foldEach items body state).Yields world (invariant items) := by
  suffices general : ∀ done rest state world, done ++ rest = items → invariant done state world →
      (foldEach rest body state).Yields world (invariant items) from
    general [] items state world rfl start
  intro done rest
  induction rest generalizing done with
  | nil =>
      intro state world whole holds
      rw [List.append_nil] at whole
      exact whole ▸ holds
  | cons item rest ih =>
      intro state world whole holds
      refine yields_bind.mpr ((step done item ⟨rest, by simpa using whole⟩ state world holds).mono
        fun state after kept => ih (done ++ [item]) state after (by simpa using whole) kept)

theorem yields_within {Part : Type} {part : Data → Part} {update : Part → Data → Data}
    {code : Code Part Call Reply α} :
    (within part update code).Yields world post ↔
      code.Yields { world with data := part world.data } fun value after =>
        post value { after with data := update after.data world.data } := by
  unfold Yields Code.within
  cases code { world with data := part world.data } <;> exact Iff.rfl

theorem Yields.step {Event : Type} {perform : Event → Code Data Call Reply Unit} {event : Event}
    {post : Guarded Data Call Reply → Prop} (yields : (perform event).Yields world fun _ => post) :
    ∃ after, Code.step perform event (some world) = some after ∧ post after := by
  unfold Yields at yields
  cases result : perform event world with
  | returned value after =>
      rw [result] at yields
      exact ⟨after, by simp [Code.step, result, Outcome.state], yields⟩
  | raised after =>
      rw [result] at yields
      exact yields.elim
  | stuck =>
      rw [result] at yields
      exact yields.elim

end Yielding

section Calling

end Calling

section Stuck

variable {code : Code Data Call Reply α} {next : α → Code Data Call Reply β}
  {world : Guarded Data Call Reply}

theorem bind_stuck (stuck : code world = .stuck) : code.bind next world = .stuck := by
  simp [Code.bind, stuck]

/-- A synchronized block inside another waits for ever. -/
theorem synchronized_stuck (taken : world.locked = true) : synchronized code world = .stuck := by
  simp [synchronized, Code.bind, acquire, taken]

theorem synchronized_of_stuck (free : world.locked = false)
    (stuck : code { world with locked := true } = .stuck) : synchronized code world = .stuck := by
  simp [synchronized, Code.bind, acquire, free, tryFinally, stuck]

end Stuck

end Code

end Redhawk.Library
