/-
The control socket.
-/

import Ngxora.Base.Programs
import Ngxora.Base.Results
import Ngxora.Base.Runs

namespace Ngxora.Uds

inductive ErrorKind where
  | notFound
  | connectionRefused
  | connectionReset
  | connectionAborted
  | addrInUse
  | other
  deriving DecidableEq

structure IoError where
  kind : ErrorKind
  message : String

inductive TryLockError where
  | wouldBlock
  | error (err : IoError)

inductive FileType where
  | regular
  | socket
  | other
  deriving DecidableEq

structure Metadata where
  fileType : FileType
  device : UInt64
  inode : UInt64

structure Ownership where
  device : UInt64
  inode : UInt64

/-- The calls on the path and on the lock path, the marks where an `Ownership` is made and
where the caller keeps what it got, and the messages of a drop. -/
inductive Syscall where
  | privateSocketPath
  | lockMetadata
  | openLock
  | tryLock
  | metadata
  | connect
  | removeFile
  | bindSocket
  | listen
  | own
  | setPermissions
  | keep
  | closeListener
  | closeLock
  | eprintln (message : String)

/-- A probe has no answer when it times out; a caller that keeps the socket drops the
listener or the ownership first. -/
def syscalls : Interface where
  Op := Syscall
  Answer
    | .lockMetadata | .metadata => Except IoError Metadata
    | .privateSocketPath | .openLock | .removeFile | .bindSocket | .listen | .setPermissions =>
      Except IoError Unit
    | .tryLock => Except TryLockError Unit
    | .connect => Option (Except IoError Unit)
    | .keep => Bool
    | .own | .closeListener | .closeLock | .eprintln _ => Unit

abbrev Call (α : Type) : Type := Program syscalls α

def ask (call : Syscall) : Call (syscalls.Answer call) := @Program.ask syscalls call

/-- The `?` of a call with these local values to drop. -/
def orDrop {α β : Type} (dropped : Call Unit) (result : Except IoError α)
    (next : α → Call (Except IoError β)) : Call (Except IoError β) :=
  match result with
  | .ok value => next value
  | .error err => do
    dropped
    pure (.error err)

def Ownership.drop (path : String) (ownership : Ownership) : Call Unit := do
  match ← ask .metadata with
  | .ok found =>
    if found.fileType = .socket ∧ found.device = ownership.device ∧
        found.inode = ownership.inode then
      match ← ask .removeFile with
      | .ok _ => pure ()
      | .error err => ask (.eprintln s!"failed to remove gRPC UDS {path}: {err.message}")
    else pure ()
  | .error err =>
    if err.kind = .notFound then pure ()
    else ask (.eprintln s!"failed to inspect gRPC UDS {path} during shutdown: {err.message}")

def Ownership.release (path : String) (ownership : Ownership) : Call Unit := do
  ownership.drop path
  ask .closeLock

def checkLockPath : Except IoError Metadata → Except IoError Unit
  | .ok found =>
    if found.fileType ≠ .regular then .error ⟨.other, "gRPC UDS lock path is not a regular file"⟩
    else .ok ()
  | .error err => if err.kind = .notFound then .ok () else .error err

def lockError : TryLockError → IoError
  | .wouldBlock => ⟨.addrInUse, "gRPC UDS is owned by another process"⟩
  | .error err => err

def preparePath : Call (Except IoError Unit) := do
  match ← ask .metadata with
  | .error err => pure (if err.kind = .notFound then .ok () else .error err)
  | .ok found =>
    if found.fileType ≠ .socket then
      pure (.error ⟨.other, "gRPC UDS path already exists and is not a socket"⟩)
    else
      match ← ask .connect with
      | some (.error err) =>
        match err.kind with
        | .connectionRefused =>
          match ← ask .metadata with
          | .error err => pure (.error err)
          | .ok current =>
            if current.device ≠ found.device ∨ current.inode ≠ found.inode then
              pure (.error ⟨.addrInUse, "gRPC UDS changed during bind"⟩)
            else ask .removeFile
        | .notFound => pure (.ok ())
        | .connectionReset | .connectionAborted => pure (.error ⟨.addrInUse, err.message⟩)
        | _ => pure (.error err)
      | some (.ok _) | none => pure (.error ⟨.addrInUse, "gRPC UDS listener is still active"⟩)

def bind (path : String) : Call (Except IoError Ownership) := do
  let dropBoth : Call Unit := do
    ask .closeListener
    ask .closeLock
  orDrop (pure ()) (← ask .privateSocketPath) fun _ => do
  orDrop (pure ()) (checkLockPath (← ask .lockMetadata)) fun _ => do
  orDrop (pure ()) (← ask .openLock) fun _ => do
  orDrop (ask .closeLock) ((← ask .tryLock).mapError lockError) fun _ => do
  orDrop (ask .closeLock) (← preparePath) fun _ => do
  orDrop (ask .closeLock) (← ask .bindSocket) fun _ => do
  orDrop dropBoth (← ask .listen) fun _ => do
  orDrop dropBoth (← ask .metadata) fun found => do
  let ownership : Ownership := { device := found.device, inode := found.inode }
  ask .own
  let dropAll : Call Unit := do
    ownership.release path
    ask .closeListener
  orDrop dropAll (← ask .setPermissions) fun _ => pure (.ok ownership)

/-- A process binds the socket, keeps it and drops what it got. -/
def session (path : String) : Call Unit := do
  match ← bind path with
  | .error _ => pure ()
  | .ok ownership =>
    let listenerFirst : Bool ← ask .keep
    if listenerFirst then
      ask .closeListener
      ownership.release path
    else
      ownership.release path
      ask .closeListener

section World

variable {Caller : Type} [DecidableEq Caller]

structure File (Caller : Type) where
  metadata : Metadata
  boundBy : Option Caller

/-- What stands at the path and at the lock path, who has locked the lock file, and who
has an `Ownership` and a listener. -/
structure World (Caller : Type) where
  entry : Option (File Caller)
  lockFile : Option Metadata
  lockHolder : Option Caller
  owners : Caller → Bool
  listening : Caller → Bool

/-- What the kernel and the other ends decide: a failure of the call, the numbers of a new
file, which may have been used before, and the outcome of a probe. -/
structure Outside where
  failure : Option IoError := none
  device : UInt64 := 0
  inode : UInt64 := 0
  probe : Option (Except IoError Unit) := none
  listenerFirst : Bool := false

def Outside.attempt {α : Type} (outside : Outside) (world : World Caller)
    (answer : World Caller × Except IoError α) : Option (World Caller × Except IoError α) :=
  some (outside.failure.elim answer fun err => (world, .error err))

def Outside.refused (outside : Outside) : Bool :=
  match outside.probe with
  | some (.error err) => err.kind = .connectionRefused
  | _ => false

def inspected (found : Option Metadata) : Except IoError Metadata :=
  found.elim (.error ⟨.notFound, "No such file or directory"⟩) .ok

def World.live (world : World Caller) : Bool :=
  (world.entry.bind File.boundBy).any world.listening

def World.closeLock (world : World Caller) (caller : Caller) : World Caller :=
  { world with
    lockHolder := if world.lockHolder = some caller then none else world.lockHolder
    owners := Function.update world.owners caller false }

def World.closeListener (world : World Caller) (caller : Caller) : World Caller :=
  { world with listening := Function.update world.listening caller false }

def perform (caller : Caller) (world : World Caller) (outside : Outside) :
    (call : Syscall) → Option (World Caller × syscalls.Answer call)
  | .privateSocketPath | .setPermissions => outside.attempt world (world, .ok ())
  | .lockMetadata => outside.attempt world (world, inspected world.lockFile)
  | .openLock =>
    let created : Metadata := ⟨.regular, outside.device, outside.inode⟩
    outside.attempt world ({ world with lockFile := world.lockFile.or (some created) }, .ok ())
  | .tryLock =>
    some (match outside.failure with
      | some err => (world, .error (.error err))
      | none =>
        if world.lockHolder = none then ({ world with lockHolder := some caller }, .ok ())
        else (world, .error .wouldBlock))
  | .metadata => outside.attempt world (world, inspected (world.entry.map File.metadata))
  | .connect =>
    -- a live listener does not refuse
    if outside.refused && world.live then none else some (world, outside.probe)
  | .removeFile =>
    outside.attempt world (match world.entry with
      | none => (world, .error ⟨.notFound, "No such file or directory"⟩)
      | some _ => ({ world with entry := none }, .ok ()))
  | .bindSocket =>
    let created : Metadata := ⟨.socket, outside.device, outside.inode⟩
    outside.attempt world (match world.entry with
      | some _ => (world, .error ⟨.addrInUse, "Address already in use"⟩)
      | none => ({ world with entry := some ⟨created, some caller⟩ }, .ok ()))
  | .listen =>
    outside.attempt world
      ({ world with listening := Function.update world.listening caller true }, .ok ())
  | .own => some ({ world with owners := Function.update world.owners caller true }, ())
  | .keep => some (world, outside.listenerFirst)
  | .closeListener => some (world.closeListener caller, ())
  | .closeLock => some (world.closeLock caller, ())
  | .eprintln _ => some (world, ())

structure System (Caller : Type) where
  world : World Caller
  running : Caller → Call Unit

/-- A process that dies, or whose call is dropped while it waits, closes its handles. -/
inductive Action (Caller : Type) where
  | start (caller : Caller)
  | perform (caller : Caller) (outside : Outside)
  | abandon (caller : Caller)

def Action.caller : Action Caller → Caller
  | .start caller | .perform caller _ | .abandon caller => caller

/-- Every system call is one operation; in between other processes act on the same path. -/
def step (path : String) (system : System Caller) : Action Caller → Option (System Caller)
  | .start caller =>
    match system.running caller with
    | .done _ => some { system with running := Function.update system.running caller (session path) }
    | .call _ _ => none
  | .perform caller outside =>
    match system.running caller with
    | .done _ => none
    | .call op next =>
      (perform caller system.world outside op).map fun (world, answer) =>
        { world, running := Function.update system.running caller (next answer) }
  | .abandon caller =>
    some
      { world := (system.world.closeListener caller).closeLock caller
        running := Function.update system.running caller (.done ()) }

structure System.Initial (system : System Caller) : Prop where
  running : ∀ caller, system.running caller = .done ()
  lockHolder : system.world.lockHolder = none
  owners : ∀ caller, system.world.owners caller = false

inductive Held where
  | nothing
  | lock
  | ownership
  deriving DecidableEq

def World.heldBy (world : World Caller) (caller : Caller) : Held :=
  if world.owners caller then .ownership
  else if world.lockHolder = some caller then .lock
  else .nothing

/-- The lock file is locked from before the path is inspected until after the socket file is
removed. -/
def Allowed : Syscall → Held → Prop
  | .removeFile, held | .bindSocket, held => held ≠ .nothing
  | .own, held => held = .lock
  | .tryLock, held => held = .nothing
  | _, _ => True

def heldAfter : (call : Syscall) → syscalls.Answer call → Held → Held
  | .tryLock, .ok _, _ => .lock
  | .own, _, _ => .ownership
  | .closeLock, _, _ => .nothing
  | _, _, held => held

abbrev Locks {α : Type} (post : α → Held → Prop) (program : Call α) (held : Held) : Prop :=
  @Program.Follows syscalls α Held Allowed heldAfter post program held

section Programs

variable {α β : Type} {post : α → Held → Prop} {held : Held}

lemma Locks.ask {call : Syscall} {next : syscalls.Answer call → Call α}
    (allowed : Allowed call held)
    (rest : ∀ answer, Locks post (next answer) (heldAfter call answer held)) :
    Locks post (Uds.ask call >>= next) held :=
  ⟨allowed, rest⟩

lemma Locks.orDrop {post : Except IoError β → Held → Prop} {dropped : Call Unit}
    {res : Except IoError α} {next : α → Call (Except IoError β)}
    (drops : ∀ err, Locks (fun _ => post (.error err)) dropped held)
    (goes : ∀ value, res = .ok value → Locks post (next value) held) :
    Locks post (Uds.orDrop dropped res next) held := by
  cases res with
  | ok value => exact goes value rfl
  | error err => exact (drops err).bind fun _ _ ends => ends

lemma Locks.ite {cond : Prop} [Decidable cond] {first second : Call α}
    (yes : cond → Locks post first held) (no : ¬cond → Locks post second held) :
    Locks post (if cond then first else second) held := by
  by_cases holds : cond
  · rw [if_pos holds]
    exact yes holds
  · rw [if_neg holds]
    exact no holds

lemma owned_ne_nothing : Held.ownership ≠ .nothing := by decide

lemma locks_closeLock : Locks (fun _ left => left = .nothing) (ask .closeLock) held :=
  ⟨trivial, fun _ => rfl⟩

lemma locks_drop (path : String) (ownership : Ownership) (locked : held ≠ .nothing) :
    Locks (fun _ left => left = held) (ownership.drop path) held := by
  refine .ask trivial fun answer => ?_
  cases answer with
  | ok found =>
    refine .ite (fun _ => .ask locked fun answer => ?_) fun _ => rfl
    cases answer with
    | ok _ => exact rfl
    | error err => exact ⟨trivial, fun _ => rfl⟩
  | error err => exact .ite (fun _ => rfl) fun _ => ⟨trivial, fun _ => rfl⟩

lemma locks_release (path : String) (ownership : Ownership) (locked : held ≠ .nothing) :
    Locks (fun _ left => left = .nothing) (ownership.release path) held :=
  (locks_drop path ownership locked).bind fun _ _ _ => locks_closeLock

lemma locks_preparePath (locked : held ≠ .nothing) :
    Locks (fun _ left => left = held) preparePath held := by
  refine .ask trivial fun answer => ?_
  cases answer with
  | error err => exact rfl
  | ok found =>
    refine .ite (fun _ => rfl) fun _ => .ask trivial fun answer => ?_
    rcases answer with _ | ⟨⟨kind, msg⟩ | _⟩
    · exact rfl
    · cases kind with
      | connectionRefused =>
        refine .ask trivial fun answer => ?_
        cases answer with
        | error err => exact rfl
        | ok cur => exact .ite (fun _ => rfl) fun _ => ⟨locked, fun _ => rfl⟩
      | _ => exact rfl
    · exact rfl

lemma locks_bind (path : String) :
    Locks (fun res left => left = if res.isOk then .ownership else .nothing) (bind path)
      .nothing := by
  refine .ask trivial fun _ => .orDrop (fun _ => rfl) fun _ _ => ?_
  refine .ask trivial fun _ => .orDrop (fun _ => rfl) fun _ _ => ?_
  refine .ask trivial fun _ => .orDrop (fun _ => rfl) fun _ _ => ?_
  refine .ask rfl fun locked => .orDrop (fun _ => locks_closeLock) fun _ succeeds => ?_
  cases locked with
  | error err => cases succeeds
  | ok _ =>
    have both : Locks (fun _ left => left = .nothing) (do
        ask .closeListener
        ask .closeLock) .lock := .ask trivial fun _ => locks_closeLock
    have holds : Held.lock ≠ .nothing := by decide
    refine (locks_preparePath holds).bind fun _ _ same => ?_
    subst same
    refine Locks.orDrop (fun _ => locks_closeLock) fun _ _ => ?_
    refine .ask holds fun _ => .orDrop (fun _ => locks_closeLock) fun _ _ => ?_
    refine .ask trivial fun _ => .orDrop (fun _ => both) fun _ _ => ?_
    refine .ask trivial fun _ => .orDrop (fun _ => both) fun found _ => ?_
    refine .ask rfl fun _ => .ask trivial fun _ => .orDrop (fun _ => ?_) fun _ _ => rfl
    exact (locks_release path _ owned_ne_nothing).bind fun _ _ ends => ⟨trivial, fun _ => ends⟩

lemma locks_session (path : String) :
    Locks (fun _ left => left = .nothing) (session path) .nothing := by
  refine (locks_bind path).bind fun res left ends => ?_
  cases res with
  | error err => exact ends
  | ok ownership =>
    have owned : left = .ownership := ends
    subst owned
    refine Locks.ask trivial fun (listenerFirst : Bool) => .ite (fun _ => ?_) fun _ => ?_
    · exact .ask trivial fun _ => locks_release path ownership owned_ne_nothing
    · exact (locks_release path ownership owned_ne_nothing).bind fun _ _ ends => ⟨trivial, fun _ => ends⟩

end Programs

variable {before after world : World Caller} {caller other : Caller} {outside : Outside}

/-- Only the holder of the lock owns the socket. -/
def World.Sound (world : World Caller) : Prop :=
  ∀ caller, world.owners caller = true → world.lockHolder = some caller

lemma World.Sound.lockHolder (sound : world.Sound) (holds : world.heldBy caller ≠ .nothing) :
    world.lockHolder = some caller := by
  unfold World.heldBy at holds
  split at holds
  next owns => exact sound caller owns
  next =>
    split at holds
    next locked => exact locked
    next => exact absurd rfl holds

lemma World.Sound.closeLock (sound : world.Sound) : (world.closeLock caller).Sound := by
  intro owner owns
  by_cases same : owner = caller
  · simp [World.closeLock, same] at owns
  · have locked := sound owner (by simpa [World.closeLock, same] using owns)
    simp [World.closeLock, locked, same]

lemma heldBy_closeLock_self (world : World Caller) (caller : Caller) :
    (world.closeLock caller).heldBy caller = .nothing := by
  by_cases locked : world.lockHolder = some caller
  · simp [World.heldBy, World.closeLock, locked]
  · simp [World.heldBy, World.closeLock, locked]

lemma heldBy_closeLock_other (ne : other ≠ caller) :
    (world.closeLock caller).heldBy other = world.heldBy other := by
  by_cases locked : world.lockHolder = some caller
  · simp [World.heldBy, World.closeLock, locked, ne, Ne.symm ne]
  · simp [World.heldBy, World.closeLock, locked, ne]

/-- What one system call can do. -/
structure Performed (caller : Caller) (before after : World Caller) (call : Syscall)
    (answer : syscalls.Answer call) : Prop where
  sound : after.Sound
  entry : after.entry = before.entry ∨ before.lockHolder = some caller
  held : after.heldBy caller = heldAfter call answer (before.heldBy caller)
  others : ∀ other, other ≠ caller → after.heldBy other = before.heldBy other

section Perform

variable {call : Syscall} {answer : syscalls.Answer call}

lemma Performed.of_eq (sound : before.Sound) (lock : after.lockHolder = before.lockHolder)
    (owners : after.owners = before.owners)
    (entry : after.entry = before.entry ∨ before.lockHolder = some caller)
    (plain : heldAfter call answer (before.heldBy caller) = before.heldBy caller) :
    Performed caller before after call answer := by
  have held : after.heldBy = before.heldBy := by
    funext other
    rw [World.heldBy, World.heldBy, lock, owners]
  refine ⟨fun owner owns => ?_, entry, ?_, fun other _ => by rw [held]⟩
  · rw [lock]
    exact sound owner (owners ▸ owns)
  · rw [held, plain]

omit [DecidableEq Caller] in
lemma attempt_eq_some {α : Type} {done res : World Caller × Except IoError α}
    (attempted : outside.attempt world done = some res) :
    (∃ err, res = (world, .error err)) ∨ res = done := by
  cases failure : outside.failure with
  | none => exact .inr (by simpa [Outside.attempt, failure] using attempted.symm)
  | some err => exact .inl ⟨err, by simpa [Outside.attempt, failure] using attempted.symm⟩

lemma performed_of_perform (sound : before.Sound) (allowed : Allowed call (before.heldBy caller))
    (done : perform caller before outside call = some (after, answer)) :
    Performed caller before after call answer := by
  cases call with
  | privateSocketPath | setPermissions | lockMetadata | metadata | openLock | listen =>
    rcases attempt_eq_some done with ⟨_, same⟩ | same <;> cases same
    all_goals exact .of_eq sound rfl rfl (.inl rfl) rfl
  | removeFile | bindSocket =>
    have locked := sound.lockHolder allowed
    rcases attempt_eq_some done with ⟨_, same⟩ | same
    · cases same
      exact .of_eq sound rfl rfl (.inl rfl) rfl
    · split at same
      all_goals
        cases same
        exact .of_eq sound rfl rfl (.inr locked) rfl
  | connect =>
    simp only [perform] at done
    split at done
    · cases done
    · cases done
      exact .of_eq sound rfl rfl (.inl rfl) rfl
  | keep | closeListener | eprintln =>
    cases done
    exact .of_eq sound rfl rfl (.inl rfl) rfl
  | tryLock =>
    simp only [perform] at done
    split at done
    · cases done
      exact .of_eq sound rfl rfl (.inl rfl) rfl
    split at done
    case isFalse =>
      cases done
      exact .of_eq sound rfl rfl (.inl rfl) rfl
    case isTrue free =>
      cases done
      have noOwner (owner : Caller) : before.owners owner = false := by
        rw [Bool.eq_false_iff]
        exact fun owns => nomatch free.symm.trans (sound owner owns)
      refine ⟨fun owner owns => ?_, .inl rfl, ?_, fun other ne => ?_⟩
      · cases (noOwner owner).symm.trans owns
      · simp [World.heldBy, noOwner, heldAfter]
      · simp [World.heldBy, noOwner, free, Ne.symm ne]
  | own =>
    cases done
    have locked : before.lockHolder = some caller := sound.lockHolder (by rw [allowed]; decide)
    refine ⟨fun owner owns => ?_, .inl rfl, ?_, fun other ne => ?_⟩
    · by_cases same : owner = caller
      · exact same ▸ locked
      · exact sound owner (by simpa [same] using owns)
    · simp [World.heldBy, heldAfter]
    · simp [World.heldBy, ne]
  | closeLock =>
    cases done
    exact ⟨sound.closeLock, .inl rfl, heldBy_closeLock_self _ _, fun _ => heldBy_closeLock_other⟩

end Perform

/-- Every caller is in a session that gives back what it holds. -/
structure System.Sound (system : System Caller) : Prop where
  world : system.world.Sound
  locks : ∀ caller,
    Locks (fun _ left => left = .nothing) (system.running caller) (system.world.heldBy caller)

variable {start finish system : System Caller} {path : String} {action : Action Caller}

lemma System.Initial.sound (initial : start.Initial) : start.Sound where
  world caller owns := by
    rw [initial.owners] at owns
    cases owns
  locks caller := by
    have nothing : start.world.heldBy caller = .nothing := by
      simp [World.heldBy, initial.owners, initial.lockHolder]
    rwa [initial.running]

lemma System.Sound.update (sound : system.Sound) {program : Call Unit} (worldSound : world.Sound)
    (locks : Locks (fun _ left => left = .nothing) program (world.heldBy caller))
    (others : ∀ other, other ≠ caller → world.heldBy other = system.world.heldBy other) :
    System.Sound { world, running := Function.update system.running caller program } where
  world := worldSound
  locks other := by
    dsimp only
    by_cases same : other = caller
    · subst same
      rwa [Function.update_self]
    · rw [Function.update_of_ne same, others other same]
      exact sound.locks other

lemma System.Sound.step (sound : system.Sound) (step : Uds.step path system action = some finish) :
    finish.Sound ∧ (finish.world.entry = system.world.entry ∨
      system.world.lockHolder = some action.caller) := by
  cases action with
  | start caller =>
    have locks := sound.locks caller
    simp only [Uds.step] at step
    split at step
    next running =>
      cases step
      rw [running] at locks
      have nothing : system.world.heldBy caller = .nothing := locks
      exact ⟨sound.update sound.world (nothing ▸ locks_session path) fun _ _ => rfl, .inl rfl⟩
    next => cases step
  | perform caller outside =>
    have locks := sound.locks caller
    simp only [Uds.step] at step
    split at step
    next => cases step
    next call next running =>
      rw [running] at locks
      obtain ⟨⟨world, answer⟩, performed, same⟩ := Option.map_eq_some_iff.mp step
      cases same
      have done := performed_of_perform sound.world locks.1 performed
      exact ⟨sound.update done.sound (done.held ▸ locks.2 answer) done.others, done.entry⟩
  | abandon caller =>
    cases step
    have closed : (system.world.closeListener caller).Sound := sound.world
    exact ⟨sound.update closed.closeLock (heldBy_closeLock_self _ _)
      fun _ => heldBy_closeLock_other, .inl rfl⟩

lemma sound_of_reaches (initial : start.Initial) (reached : Runs.Reaches (step path) start finish) :
    finish.Sound :=
  reached.invariant initial.sound fun _ _ _ sound stepped => (sound.step stepped).1

/-- Two owners are one, and while a process owns the socket no other process changes what
stands at the path: nobody else unlinks its socket file. -/
theorem control_socket_owned_once (initial : start.Initial)
    (reached : Runs.Reaches (step path) start system) :
    (∀ first second, system.world.owners first = true → system.world.owners second = true →
      first = second) ∧
    (∀ action next owner, step path system action = some next →
      system.world.owners owner = true → action.caller ≠ owner →
      next.world.entry = system.world.entry) := by
  have sound := sound_of_reaches initial reached
  constructor
  · intro first second firstOwns secondOwns
    have same := (sound.world first firstOwns).symm.trans (sound.world second secondOwns)
    exact Option.some.inj same
  · intro action next owner stepped owns different
    refine (sound.step stepped).2.resolve_right fun locked => different ?_
    exact Option.some.inj (locked.symm.trans (sound.world owner owns))

theorem second_process_locked_out :
    ∃ start system : System Bool, start.Initial ∧ Runs.Reaches (step "control.sock") start system ∧
      system.world.owners true = true ∧
      ∀ action next, step "control.sock" system action = some next → action.caller ≠ true →
        next.world.entry = system.world.entry := by
  obtain ⟨system, run, owns⟩ : ∃ system,
      (([.start true] ++ List.replicate 5 (.perform true {}) ++
        [.perform true { probe := some (.error ⟨.connectionRefused, "Connection refused"⟩) }] ++
        List.replicate 7 (.perform true { device := 8, inode := 41 }) ++
        [.start false] ++ List.replicate 4 (.perform false {})) : List (Action Bool)).foldlM
        (step "control.sock")
        { world :=
            { entry := some ⟨⟨.socket, 8, 41⟩, none⟩
              lockFile := none
              lockHolder := none
              owners := fun _ => false
              listening := fun _ => false }
          running := fun _ => .done () } = some system ∧ system.world.owners true = true := by
    decide +kernel
  have reached := Runs.reaches_of_foldlM run
  have safe := control_socket_owned_once (by exact ⟨fun _ => rfl, rfl, fun _ => rfl⟩) reached
  refine ⟨_, system, ?_, reached, owns, fun action next stepped different => ?_⟩
  · exact ⟨fun _ => rfl, rfl, fun _ => rfl⟩
  · exact safe.2 action next true stepped owns different

end World

end Ngxora.Uds
