import Evfs.Durability.CrashConsistency
import Evfs.Ext4.Shutdown

namespace Evfs
namespace Durability

open Foundation Ext4 FreeSpace

/-!
# What survives a shutdown

A shutdown is a crash that somebody asked for.  The first request that takes effect
decides what the next mount finds: all flips that were done, where the request has
the journal committed, and the last commit otherwise.  Later requests, flips and
commits make no difference.

A shutdown moves the volume by at most one commit.  The crash rule of the journal
therefore also holds in runs with shutdowns and with a journal that aborts itself.
-/

section

variable {code : Ext4Code} {geo : Geometry}

/-- The flips among some events. -/
def flipsOf (events : List Mount.Event) : List FlipCall :=
  events.filterMap fun event =>
    match event with
    | .journal (.call call) => some call
    | _ => none

theorem mem_flipsOf {events : List Mount.Event} {call : FlipCall}
    (member : Mount.Event.journal (.call call) ∈ events) : call ∈ flipsOf events :=
  List.mem_filterMap.mpr ⟨.journal (.call call), member, rfl⟩

/-! ## One request -/

/-- The requests that shut a running volume down. -/
structure Effective (request : ShutdownRequest) : Prop where
  admitted : request.capableSysAdmin = true
  given : request.getUser = none
  known : ¬ goingFlagsNologflush < request.flags
  frozen : request.flags = goingFlagsDefault -> request.bdevFreeze = none

/-- The requests that have the running transaction committed first. -/
def Commits (request : ShutdownRequest) : Prop :=
  request.flags = goingFlagsDefault ∨
    request.flags = goingFlagsLogflush ∧ request.forceCommit = none

instance (request : ShutdownRequest) : Decidable (Commits request) :=
  inferInstanceAs (Decidable (_ ∨ _))

/-- A request that finds the volume shut down changes nothing. -/
theorem shutdown_of_down {mount : Mount geo} (down : mount.shutdown = true)
    (request : ShutdownRequest) : (mount.ioctlShutdown code request).1 = mount := by
  unfold Mount.ioctlShutdown Mount.forceShutdown
  split
  · rfl
  · cases request.getUser with
    | some err => rfl
    | none =>
        by_cases known : goingFlagsNologflush < request.flags
        · exact congrArg Prod.fst (if_pos known)
        · exact congrArg Prod.fst (if_neg known)

/-- The journal is there and has not been aborted. -/
def Live (mount : Mount geo) : Prop := mount.journal = true ∧ mount.journalAborted = false

instance (mount : Mount geo) : Decidable (Live mount) := inferInstanceAs (Decidable (_ ∧ _))

theorem commit_live {mount : Mount geo} (live : Live mount) :
    mount.commit code = { mount with volume := Volume.next code geo mount.volume .commit } := by
  unfold Mount.commit
  rw [live.1, live.2]
  rfl

theorem commit_dead {mount : Mount geo} (dead : ¬ Live mount) : mount.commit code = mount := by
  refine if_neg fun both => dead ?_
  rw [Bool.and_eq_true, Bool.not_eq_true'] at both
  exact both

theorem shutdown_of_effective {mount : Mount geo} (up : mount.shutdown = false)
    {request : ShutdownRequest} (effective : Effective request) :
    (mount.ioctlShutdown code request).1 =
      { volume :=
          if Live mount ∧ Commits request then Volume.next code geo mount.volume .commit
          else mount.volume
        journal := mount.journal
        journalAborted :=
          mount.journalAborted || mount.journal && decide (request.flags ≠ goingFlagsDefault)
        shutdown := true
        discard := false } := by
  obtain ⟨volume, journal, journalAborted, shutdown, discard⟩ := mount
  obtain ⟨capable, getUser, flags, bdevFreeze, forceCommit⟩ := request
  obtain ⟨admitted, given, known, frozen⟩ := effective
  simp only at up admitted given known frozen
  subst up admitted given
  unfold Mount.ioctlShutdown Mount.forceShutdown Commits Live
  simp only [if_neg known, Bool.true_eq_false, Bool.false_eq_true, if_false]
  by_cases default : flags = goingFlagsDefault
  · rw [if_pos default]
    simp only [frozen default, default]
    cases journal <;> cases journalAborted <;>
      simp [Mount.commit, Mount.setShutdown, Mount.clearDiscard]
  · rw [if_neg default]
    by_cases logflush : flags = goingFlagsLogflush
    · have different : goingFlagsLogflush ≠ goingFlagsDefault := by decide
      rw [if_pos logflush]
      cases journal <;> cases journalAborted <;> cases forceCommit <;>
        simp [Mount.commit, Mount.setShutdown, Mount.clearDiscard, Mount.abort,
          Mount.forceCommit, different, logflush]
    · rw [if_neg logflush]
      cases journal <;> cases journalAborted <;>
        simp [Mount.setShutdown, Mount.clearDiscard, Mount.abort, default, logflush]

theorem shutdown_of_ineffective {request : ShutdownRequest} (ineffective : ¬ Effective request)
    (mount : Mount geo) : (mount.ioctlShutdown code request).1 = mount := by
  unfold Mount.ioctlShutdown Mount.forceShutdown
  by_cases admitted : request.capableSysAdmin = false
  · rw [if_pos admitted]
  · rw [if_neg admitted]
    cases given : request.getUser with
    | some err => rfl
    | none =>
        simp only
        by_cases known : goingFlagsNologflush < request.flags
        · rw [if_pos known]
        · rw [if_neg known]
          split
          · rfl
          · by_cases default : request.flags = goingFlagsDefault
            · rw [if_pos default]
              cases frozen : request.bdevFreeze with
              | some err => rfl
              | none =>
                  exact absurd ⟨Bool.not_eq_false _ ▸ admitted, given, known, fun _ => frozen⟩
                    ineffective
            · exact absurd ⟨Bool.not_eq_false _ ▸ admitted, given, known,
                fun same => absurd same default⟩ ineffective

theorem reply_of_effective {request : ShutdownRequest} (effective : Effective request)
    (mount : Mount geo) : (mount.ioctlShutdown code request).2 = 0 := by
  unfold Mount.ioctlShutdown Mount.forceShutdown
  simp only [effective.admitted, effective.given, if_neg effective.known, Bool.true_eq_false,
    if_false]
  cases mount.shutdown with
  | true => rfl
  | false =>
      by_cases default : request.flags = goingFlagsDefault
      · rw [if_neg Bool.false_ne_true, if_pos default, effective.frozen default]
      · rw [if_neg Bool.false_ne_true, if_neg default]
        split <;> rfl

/-- The environment of the dispatcher describes a request on a volume. -/
structure DescribesShutdown (env : IoctlEnv) (request : ShutdownRequest) (mount : Mount geo) :
    Prop where
  capableSysAdmin : env.test .capableSysAdmin = request.capableSysAdmin
  getUser : env.err .getUser = request.getUser
  flags : env.shutdownFlags = request.flags
  forcedShutdown : env.test .forcedShutdown = mount.shutdown
  bdevFreeze : env.err .bdevFreeze = request.bdevFreeze

theorem forceShutdown_reply {env : IoctlEnv} {request : ShutdownRequest} {mount : Mount geo}
    (describes : DescribesShutdown env request mount) (kernel : Kernel) :
    (ext4ForceShutdown env kernel).2 = (mount.forceShutdown code request).2 := by
  obtain ⟨-, -, flags, forced, frozen⟩ := describes
  have same : goingFlagsNologflush = 2 := rfl
  have default : goingFlagsDefault = 0 := rfl
  unfold ext4ForceShutdown Mount.forceShutdown
  rw [flags, forced, same, default]
  by_cases known : 2 < request.flags
  · rw [if_pos known, if_pos known]
  · rw [if_neg known, if_neg known]
    cases mount.shutdown with
    | true => rfl
    | false =>
        rw [if_neg Bool.false_ne_true, if_neg Bool.false_ne_true]
        by_cases freezes : request.flags = 0
        · rw [if_pos freezes, if_pos freezes]
          unfold callExtern IoctlEnv.result
          rw [frozen]
          cases request.bdevFreeze <;> rfl
        · rw [if_neg freezes, if_neg freezes]
          split <;> split <;> rfl

/-- The handler that the dispatcher runs gives the same reply. -/
theorem shutdown_reply {env : IoctlEnv} {request : ShutdownRequest} {mount : Mount geo}
    (describes : DescribesShutdown env request mount) (kernel : Kernel) :
    (ext4IoctlShutdown env kernel).2 = (mount.ioctlShutdown code request).2 := by
  unfold ext4IoctlShutdown checkAuthority Mount.ioctlShutdown IoctlEnv.fails
  rw [describes.capableSysAdmin, describes.getUser]
  cases request.capableSysAdmin with
  | false => rfl
  | true =>
  cases request.getUser with
  | some err => rfl
  | none => exact forceShutdown_reply describes _

/-! ## Runs -/

/-- An event moves the volume by at most one event of its journal, which calls the
handler only where the event does. -/
theorem next_volume (mount : Mount geo) (event : Mount.Event) :
    (mount.next code event).volume = mount.volume ∨
      exists action, (mount.next code event).volume = Volume.next code geo mount.volume action ∧
        forall call, action = .call call -> event = .journal (.call call) := by
  have commit (here : (mount.next code event).volume = Volume.next code geo mount.volume .commit) :
      exists action, (mount.next code event).volume = Volume.next code geo mount.volume action ∧
        forall call, action = .call call -> event = .journal (.call call) :=
    ⟨.commit, here, fun call impossible => by cases impossible⟩
  cases event with
  | journal action =>
      cases action with
      | commit =>
          by_cases live : Live mount
          · exact Or.inr (commit (congrArg Mount.volume (commit_live live)))
          · exact Or.inl (congrArg Mount.volume (commit_dead live))
      | call call => exact Or.inr ⟨.call call, rfl, fun other same => by rw [same]⟩
      | checkpoint => exact Or.inr ⟨.checkpoint, rfl, fun call impossible => by cases impossible⟩
      | writeHome key =>
          exact Or.inr ⟨.writeHome key, rfl, fun call impossible => by cases impossible⟩
  | abort => exact Or.inl rfl
  | shutdown request =>
      by_cases effective : Effective request
      · cases down : mount.shutdown with
        | true => exact Or.inl (congrArg Mount.volume (shutdown_of_down down request))
        | false =>
            have settled := congrArg Mount.volume (@shutdown_of_effective code _ _ down _ effective)
            by_cases commits : Live mount ∧ Commits request
            · exact Or.inr (commit (settled.trans (if_pos commits)))
            · exact Or.inl (settled.trans (if_neg commits))
      · exact Or.inl (congrArg Mount.volume (shutdown_of_ineffective effective mount))

/-- A volume that has just been mounted with its journal. -/
def startMount (disk : Disk geo) (records : Memory) (discard : Bool) : Mount geo where
  volume := Volume.mounted disk records
  journal := true
  journalAborted := false
  shutdown := false
  discard := discard

theorem safe_startMount {good : Disk geo -> Prop} {disk : Disk geo} (holds : good disk)
    (records : Memory) (discard : Bool) :
    (startMount disk records discard).volume.Safe (journalCache geo) good := by
  have start := Volume.imageOf_mounted disk records
  refine ⟨?_, holds, fun buffer _ => congrFun start buffer⟩
  show good (Disk.imageOf geo (Volume.mounted disk records).state.mem)
  rw [start]
  exact holds

/-- The crash invariant of the volume goes through runs with shutdowns. -/
theorem safe_exec {good : Disk geo -> Prop} {admitted : FlipCall -> Prop}
    (kept : forall kernel call, admitted call -> good (Disk.imageOf geo kernel.mem) ->
      good (Disk.imageOf geo (flipStep code geo kernel call).mem))
    (registers : forall call, admitted call -> call.Registers code geo)
    {start : Mount geo} (safe : start.volume.Safe (journalCache geo) good)
    (events : List Mount.Event) (all : forall call, call ∈ flipsOf events -> admitted call) :
    Run.Always (Mount.next code) start events
      fun mount => mount.volume.Safe (journalCache geo) good := by
  have permitted : forall event, event ∈ events ->
      forall call, event = .journal (.call call) -> admitted call := by
    intro event member call same
    exact all call (mem_flipsOf (same ▸ member))
  refine Run.always_of_step
    (fun mount : Mount geo => mount.volume.Safe (journalCache geo) good) ?_ safe events permitted
  intro mount event allowed before
  rcases @next_volume code geo mount event with same | ⟨action, moved, calls⟩
  · rw [same]
    exact before
  · rw [moved]
    exact before.next kept (fun kernel call admits buffer absent =>
      flipStep_covers (registers call admits) kernel absent) action
      (fun call same => allowed call (calls call same))

/-- Every crash point of every run, with shutdowns and aborts wherever they may fall. -/
theorem shutdown_keeps_agreement (lawful : code.Lawful geo) (fits : geo.CountsFit)
    (disk : Disk geo) (records : Memory) (discard : Bool) (events : List Mount.Event)
    (agrees : Agrees code geo disk)
    (inRange : forall call, call ∈ flipsOf events -> geo.InRange call.blockNumber.toNat)
    (registers : forall call, call ∈ flipsOf events -> call.Registers code geo) :
    Run.Always (Mount.next code) (startMount disk records discard) events
      fun mount => Agrees code geo mount.volume.recovered := by
  have invariant := @safe_exec code geo (Agrees code geo)
    (fun call => geo.InRange call.blockNumber.toNat ∧ call.Registers code geo)
    (fun kernel call admitted before => agrees_flipStep lawful fits kernel call admitted.1 before)
    (fun call admitted => admitted.2) _ (safe_startMount agrees records discard) events
    (fun call member => ⟨inRange call member, registers call member⟩)
  intro visited short
  exact (invariant visited short).durable

/-! ## What the next mount finds -/

/-- The disk that a request leaves for the next mount. -/
def survivors (request : ShutdownRequest) (mount : Mount geo) : Disk geo :=
  if Live mount ∧ Commits request then Disk.imageOf geo mount.volume.state.mem
  else mount.volume.recovered

/-- A volume that is shut down, with nothing left that could be committed. -/
structure Closed (disk : Disk geo) (mount : Mount geo) : Prop where
  shutdown : mount.shutdown = true
  discard : mount.discard = false
  recovered : mount.volume.recovered = disk
  settled : ¬ Live mount ∨ mount.volume.state.dirtied = []

theorem closed_of_effective {mount : Mount geo} (up : mount.shutdown = false)
    (covered : mount.volume.Covered (journalCache geo)) {request : ShutdownRequest}
    (effective : Effective request) :
    Closed (survivors request mount) (mount.ioctlShutdown code request).1 := by
  rw [shutdown_of_effective up effective]
  by_cases commits : Live mount ∧ Commits request
  · refine ⟨rfl, rfl, ?_, Or.inr ?_⟩
    · simp only [survivors, if_pos commits]
      exact Journal.Machine.recovered_commit_of_covered (journalCache geo) (flipStep code geo)
        covered
    · simp only [if_pos commits]
      rfl
  · refine ⟨rfl, rfl, ?_, Or.inl ?_⟩
    · simp only [survivors, if_neg commits]
    · rintro ⟨journalled, intact⟩
      simp only [Bool.or_eq_false_iff] at journalled intact
      refine commits ⟨⟨journalled, intact.1⟩, Or.inl ?_⟩
      simpa [journalled] using intact.2

/-- Writing an empty transaction back changes nothing. -/
theorem writeBack_empty {kernel : Kernel} (empty : kernel.dirtied = []) (disk : Disk geo) :
    disk.writeBack kernel = disk := by
  funext buffer
  unfold Disk.writeBack
  rw [empty]
  exact Journal.replay_of_not_mem disk List.not_mem_nil

/-- Once a volume is shut down, handles cannot be started and nothing more is written. -/
theorem Closed.next {disk : Disk geo} {mount : Mount geo} (closed : Closed disk mount)
    (event : Mount.Event)
    (refused : forall call, event = .journal (.call call) -> call.faults.journalStart ≠ none) :
    Closed disk (mount.next code event) := by
  cases event with
  | journal action =>
      cases action with
      | commit =>
          by_cases live : Live mount
          · have empty := closed.settled.resolve_left (not_not_intro live)
            show Closed disk (mount.commit code)
            rw [commit_live live]
            refine ⟨closed.shutdown, closed.discard, ?_, Or.inr rfl⟩
            rw [Volume.recovered_commit, writeBack_empty empty]
            exact closed.recovered
          · show Closed disk (mount.commit code)
            rw [commit_dead live]
            exact closed
      | call call =>
          have denied : ¬ call.Granted code geo := by
            intro granted
            exact refused call rfl ((FlipCall.granted_iff code geo call).mp granted).2.2.2.2.1
          refine ⟨closed.shutdown, closed.discard, closed.recovered, ?_⟩
          refine closed.settled.imp id fun empty => ?_
          show (flipStep code geo mount.volume.state call).dirtied = []
          rw [flipStep_dirtied, FlipCall.registered, if_neg denied, empty]
          rfl
      | checkpoint =>
          refine ⟨closed.shutdown, closed.discard, ?_, ?_⟩
          · exact (Journal.Machine.recovered_checkpoint (journalCache geo) (flipStep code geo)
              mount.volume).trans closed.recovered
          · have state := Journal.Machine.state_checkpoint (journalCache geo) (flipStep code geo)
              mount.volume
            exact closed.settled.imp id fun empty => (congrArg Kernel.dirtied state).trans empty
      | writeHome key =>
          refine ⟨closed.shutdown, closed.discard, ?_, closed.settled⟩
          exact (Journal.Machine.recovered_next_writeHome (journalCache geo) (flipStep code geo)
            mount.volume key).trans closed.recovered
  | abort =>
      exact ⟨closed.shutdown, closed.discard, closed.recovered,
        Or.inl fun live => absurd live.2 (Bool.true_eq_false ▸ id)⟩
  | shutdown request =>
      show Closed disk (mount.ioctlShutdown code request).1
      rw [shutdown_of_down closed.shutdown]
      exact closed

theorem Closed.always {disk : Disk geo} {mount : Mount geo} (closed : Closed disk mount)
    (events : List Mount.Event)
    (refused : forall call, call ∈ flipsOf events -> call.faults.journalStart ≠ none) :
    Run.Always (Mount.next code) mount events fun visited => Closed disk visited := by
  refine Run.always_of_step (fun visited : Mount geo => Closed disk visited)
    (fun visited event allowed before => before.next event allowed) closed events ?_
  intro event member call same
  exact refused call (mem_flipsOf (same ▸ member))

/-- The first effective request of a run decides what every later mount finds: all flips
that were done before it, where it has the journal committed, and the last commit
otherwise.  The dispatcher replies success to it. -/
theorem shutdown_survivors (disk : Disk geo) (records : Memory) (discard : Bool)
    (before after : List Mount.Event) (request : ShutdownRequest)
    (registers : forall call, call ∈ flipsOf before -> call.Registers code geo)
    (up : (Run.exec (Mount.next code) (startMount disk records discard) before).shutdown = false)
    (effective : Effective request)
    (refused : forall call, call ∈ flipsOf after -> call.faults.journalStart ≠ none) :
    Run.Always (Mount.next code)
        (Run.exec (Mount.next code) (startMount disk records discard)
          (before ++ [.shutdown request]))
        after (fun mount =>
          mount.volume.recovered = survivors request
            (Run.exec (Mount.next code) (startMount disk records discard) before) ∧
          mount.shutdown = true ∧ mount.discard = false) ∧
      forall env kernel, DescribesShutdown env request
          (Run.exec (Mount.next code) (startMount disk records discard) before) ->
        (ext4IoctlShutdown env kernel).2 = 0 := by
  have safe := @safe_startMount geo (fun _ => True) disk trivial records discard
  have reached := Run.always_exec
    (safe_exec (fun _ _ _ _ => trivial) (fun call admitted => admitted) safe before registers)
  have closed := @closed_of_effective code _ _ up reached.covered _ effective
  rw [Run.exec_snoc]
  have invariant := @Closed.always code _ _ _ closed after refused
  constructor
  · intro visited short
    have final := invariant visited short
    exact ⟨final.recovered, final.shutdown, final.discard⟩
  · intro env kernel describes
    exact (@shutdown_reply code geo env request _ describes kernel).trans
      (reply_of_effective effective _)

/-! ## Instances -/

/-- A flush of the log. -/
def flushRequest : ShutdownRequest where
  capableSysAdmin := true
  getUser := none
  flags := goingFlagsLogflush
  bdevFreeze := none
  forceCommit := none

theorem flushRequest_effective : Effective flushRequest where
  admitted := rfl
  given := rfl
  known := by decide
  frozen := fun impossible => absurd impossible (by decide)

/-- The first flip survives the flush, the second comes too late. -/
theorem shutdown_survivors_sample :
    Run.Always (Mount.next GdtCsum.volumeCode)
      (Run.exec (Mount.next GdtCsum.volumeCode)
        (@startMount GdtCsum.volume sampleDisk sampleKernel.mem true)
        ([.journal (.call { blockNumber := 100 })] ++ [.shutdown flushRequest]))
      [.journal (.call { blockNumber := 101, faults := { journalStart := some .eio } }),
        .journal .commit]
      fun mount =>
        mount.volume.recovered =
          Disk.imageOf GdtCsum.volume (flipStep GdtCsum.volumeCode GdtCsum.volume
            (Volume.mounted sampleDisk sampleKernel.mem).state { blockNumber := 100 }).mem ∧
        mount.shutdown = true ∧ mount.discard = false := by
  have survived := (shutdown_survivors sampleDisk sampleKernel.mem true
    [.journal (.call { blockNumber := 100 })]
    [.journal (.call { blockNumber := 101, faults := { journalStart := some .eio } }),
      .journal .commit]
    flushRequest (show forall call, call ∈ flipsOf [.journal (.call { blockNumber := 100 })] ->
      call.Registers GdtCsum.volumeCode GdtCsum.volume by decide) rfl flushRequest_effective
    (by decide)).1
  rw [show survivors flushRequest _ = _ from if_pos ⟨⟨rfl, rfl⟩, Or.inr ⟨rfl, rfl⟩⟩] at survived
  exact survived

/-- A shutdown without a flush, between two flips. -/
theorem shutdown_keeps_agreement_sample :
    Run.Always (Mount.next GdtCsum.volumeCode)
      (@startMount GdtCsum.volume sampleDisk sampleKernel.mem true)
      [.journal (.call { blockNumber := 100 }), .journal .commit,
        .journal (.call { blockNumber := 39999 }),
        .shutdown { flushRequest with flags := goingFlagsNologflush }, .journal .commit]
      fun mount => Agrees GdtCsum.volumeCode GdtCsum.volume mount.volume.recovered :=
  shutdown_keeps_agreement GdtCsum.volumeCode_lawful GdtCsum.volume_countsFit sampleDisk
    sampleKernel.mem true _ sampleDisk_agrees (by decide) (by decide)

end

end Durability
end Evfs
