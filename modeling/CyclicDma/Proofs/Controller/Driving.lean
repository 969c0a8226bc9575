import CyclicDma.Proofs.Controller.Attending

/-! # Driving channels

Stopping, starting and submitting make moves of the channel that they drive. The
other channels only see the interrupts that are handled meanwhile. A channel is
never left started with its event masked, nor stopped with its event enabled,
unless it was stopping by itself, or was aborted before it was started.
-/

namespace CyclicDma

namespace Standing

variable {interrupted : Prop} {before middle after standing : Standing}

/-- The channel runs, or the last command killed it. -/
def Guarded (standing : Standing) : Prop :=
  standing.isRunning = true ∨ standing.command = some .kill

theorem Attends.guarded (hattends : Attends interrupted before after) (hguarded : before.Guarded) :
    after.Guarded := by
  rcases hattends with rfl | ⟨-, rfl⟩
  · exact hguarded
  · exact .inr rfl

/-- A course of moves on which the channel is aborted only by the interrupt handler, and
stays guarded. -/
structure Course (interrupted : Prop) (before after : Standing) : Prop where
  moves : Moves interrupted before after
  aborted : after.aborted = true → before.aborted = true ∨ interrupted
  guarded : before.Guarded → after.Guarded

theorem Course.trans (hfirst : Course interrupted before middle)
    (hsecond : Course interrupted middle after) : Course interrupted before after where
  moves := hfirst.moves.trans hsecond.moves
  aborted haborted := (hsecond.aborted haborted).elim hfirst.aborted .inr
  guarded hguarded := hsecond.guarded (hfirst.guarded hguarded)

theorem Attends.course (hattends : Attends interrupted before after) :
    Course interrupted before after := by
  refine ⟨hattends.moves, fun haborted => ?_, hattends.guarded⟩
  rcases hattends with rfl | ⟨hinterrupted, -⟩
  · exact .inl haborted
  · exact .inr hinterrupted

theorem course_halted (standing : Standing) : Course interrupted standing standing.halted :=
  ⟨.single (.halt standing), .inl, fun _ => .inr rfl⟩

theorem launched_stopped (standing : Standing) : standing.stopped.launched = standing.launched := by
  rw [launched, stopped, Option.map_map]
  rfl

theorem aborted_noted (standing : Standing) : standing.noted.aborted = false := by
  rcases standing.noted_cases with ⟨-, hnoted⟩ | ⟨haborted, hsame⟩
  · rw [hnoted]
  · rw [hsame, haborted]

theorem noted_frame (standing : Standing) :
    standing.noted.command = standing.command ∧ standing.noted.enabled = standing.enabled := by
  rcases standing.noted_cases with ⟨-, hnoted⟩ | ⟨-, hsame⟩
  · rw [hnoted]
    exact ⟨rfl, rfl⟩
  · rw [hsame]
    exact ⟨rfl, rfl⟩

end Standing

namespace Controller

variable {before middle after controller : Controller} {channel : Nat} {world : World}
variable {interrupted astray : Prop}

/-- One channel is driven, and the others are left alone. -/
structure Drives (channel : Nat) (astray : Prop) (before after : Controller) : Prop where
  driven : (before.standings channel).Moves astray (after.standings channel)
  others : ∀ other, other ≠ channel → (before.standings other).Moves False (after.standings other)

theorem Drives.trans (hfirst : Drives channel astray before middle)
    (hsecond : Drives channel astray middle after) : Drives channel astray before after where
  driven := hfirst.driven.trans hsecond.driven
  others other hne := (hfirst.others other hne).trans (hsecond.others other hne)

theorem Attends.drives (hattends : Attends interrupted before after) :
    Drives channel astray before after where
  driven := (hattends channel).moves
  others other _ := (hattends other).moves

theorem Drives.of_eq (hsame : after.standings = before.standings) :
    Drives channel astray before after where
  driven := by rw [hsame]
  others other _ := by rw [hsame]

/-- A move of one channel. -/
theorem drives_update {standing : Standing}
    (hmove : Standing.Move astray (before.standings channel) standing)
    (hafter : after.standings = Function.update before.standings channel standing) :
    Drives channel astray before after := by
  rw [Function.eq_update_iff] at hafter
  obtain ⟨hself, hothers⟩ := hafter
  refine ⟨hself ▸ .single hmove, fun other hne => ?_⟩
  rw [hothers other hne]

/-- One channel is on a course, and the others are left alone. -/
structure Courses (channel : Nat) (interrupted : Prop) (before after : Controller) : Prop where
  driven : (before.standings channel).Course interrupted (after.standings channel)
  others : ∀ other, other ≠ channel →
    (before.standings other).Attends interrupted (after.standings other)

theorem Courses.trans (hfirst : Courses channel interrupted before middle)
    (hsecond : Courses channel interrupted middle after) :
    Courses channel interrupted before after where
  driven := hfirst.driven.trans hsecond.driven
  others other hne := (hfirst.others other hne).trans (hsecond.others other hne)

theorem Attends.courses (hattends : Attends interrupted before after) :
    Courses channel interrupted before after where
  driven := (hattends channel).course
  others other _ := hattends other

theorem Courses.drives (hcourses : Courses channel interrupted before after) :
    Drives channel interrupted before after where
  driven := hcourses.driven.moves
  others other hne := (hcourses.others other hne).moves

theorem courses_halted (hafter : after.standings =
      Function.update before.standings channel (before.standings channel).halted) :
    Courses channel interrupted before after := by
  rw [Function.eq_update_iff] at hafter
  obtain ⟨hself, hothers⟩ := hafter
  exact ⟨hself ▸ Standing.course_halted _, fun other hne => .inl (hothers other hne)⟩

/-! ## Stopping -/

theorem standings_markStopped (channel : Nat) (controller : Controller) :
    (controller.markStopped (.channel channel)).standings =
      Function.update controller.standings channel (controller.standings channel).stopped :=
  standings_updateRequest ..

theorem standings_noteAbort (channel : Nat) (controller : Controller) :
    (controller.noteAbort channel).standings =
      Function.update controller.standings channel (controller.standings channel).noted := by
  cases haborted : (controller.notificationsOf channel).aborted with
  | true =>
      have hnoted : (controller.standings channel).noted =
          { (controller.standings channel).stopped with aborted := false } := if_pos haborted
      rw [noteAbort, if_pos haborted, hnoted, setRunning, standings_updateRequest,
        standings_clearAborted (by exact fun _ => rfl) channel controller]
      simp only [Function.update_self, Function.update_idem]
      rfl
  | false =>
      have hnoted : (controller.standings channel).noted = controller.standings channel :=
        if_neg (by exact Bool.eq_false_iff.mp haborted)
      rw [noteAbort, if_neg (Bool.eq_false_iff.mp haborted), hnoted, Function.update_eq_self]

theorem managed_noteAbort (channel : Nat) (controller : Controller) :
    (controller.noteAbort channel).managed = controller.managed :=
  (threadSteps_noteAbort ..).sameAssignment.managed

/-- The state that decides is the one that the channel is in then. -/
theorem decidingState_cases (hworld : world.Causes Disturbance.KeepsEnabled)
    (hmanaged : controller.managed ≤ 32) (channel : Nat) :
    (∃ waited, Attends world.Interrupts controller waited ∧ waited.managed = controller.managed ∧
      (controller.channelState channel ≠ .faultCompleting → waited = controller) ∧
      (decidingState world (.channel channel)).perform controller =
        (.ok (.channel (waited.channelState channel)), waited)) ∨
    ∃ stuck, Attends world.Interrupts controller stuck ∧
      (decidingState world (.channel channel)).perform controller = (.error .timeout, stuck) := by
  unfold decidingState
  rw [Attempt.perform_bind, Attempt.perform_get]
  dsimp only [threadState]
  by_cases hstate : controller.channelState channel = .faultCompleting
  · rw [hstate]
    rcases awaitState_cases hworld hmanaged channel
      (fun state => state = .faulting || state = .killing) with
      ⟨reached, hattends, hkept, -, hperform⟩ | ⟨stuck, hattends, hperform⟩
    · exact .inl ⟨reached, hattends, hkept, fun hne => absurd rfl hne,
        Attempt.perform_bind_of_ok hperform _⟩
    · exact .inr ⟨stuck, hattends, Attempt.perform_bind_of_error hperform _⟩
  · refine .inl ⟨controller, .refl controller, rfl, fun _ => rfl, ?_⟩
    split
    next heq => exact absurd (ThreadState.channel.inj heq) hstate
    next => rfl

/-- A channel is killed and its event masked, unless it is stopping anyway. -/
theorem stopThread_cases (hworld : world.Causes Disturbance.KeepsEnabled)
    (hmanaged : controller.managed ≤ 32) (hchannel : channel < 32) :
    (∃ error stuck, Attends world.Interrupts controller stuck ∧
      (stopThread world (.channel channel)).perform controller = (.error error, stuck)) ∨
    (∃ waited after, Attends world.Interrupts controller waited ∧
      after.standings =
        Function.update waited.standings channel (waited.standings channel).halted ∧
      (stopThread world (.channel channel)).perform controller = (.ok (), after)) ∨
    ∃ waited, Attends world.Interrupts controller waited ∧
      (controller.channelState channel ≠ .faultCompleting → waited = controller) ∧
      (waited.channelState channel).isStopping = true ∧
      (stopThread world (.channel channel)).perform controller =
        (.ok (), waited.markStopped (.channel channel)) := by
  unfold stopThread
  rcases decidingState_cases hworld hmanaged channel with
    ⟨decided, hattends, hkept, hsame, hdecide⟩ | ⟨stuck, hattends, hdecide⟩
  · rw [Attempt.perform_bind_of_ok hdecide]
    dsimp only
    split
    next hgoing =>
      obtain ⟨waited, hwaits, hexecute | hexecute⟩ :=
        execute_cases hworld (hkept.trans_le hmanaged) (.channel channel) .kill
      · rw [Attempt.perform_bind_of_ok hexecute]
        refine .inr (.inl ⟨waited, _, hattends.trans hwaits, ?_, rfl⟩)
        rw [standings_markStopped, standings_log, standings_silence hchannel, standings_issue_kill]
        simp only [Function.update_self, Function.update_idem]
        rfl
      · rw [Attempt.perform_bind_of_ok hexecute]
        exact .inl ⟨_, _, (hattends.trans hwaits).trans (.of_eq (standings_log ..)), rfl⟩
    next hstopping =>
      exact .inr (.inr ⟨decided, hattends, hsame, by simpa [ThreadState.isStopping] using hstopping,
        rfl⟩)
  · exact .inl ⟨_, stuck, hattends, Attempt.perform_bind_of_error hdecide _⟩

/-! ## Starting -/

theorem awaitState_of_accept {accept : ChannelState → Bool}
    (haccept : accept (controller.channelState channel) = true) :
    (awaitState world channel accept).perform controller =
      (.ok (controller.channelState channel), controller) := by
  have hwaited : waitFor world (fun controller => accept (controller.channelState channel))
      waitBound controller = (true, controller) := by
    rw [waitBound, waitFor, if_pos haccept]
  rw [perform_awaitState, hwaited]

theorem managed_of_perform {α : Type} {action : Attempt Controller α} {result : Except DmaError α}
    (hfollows : Follows ThreadSteps action)
    (hperform : action.perform controller = (result, after)) :
    after.managed = controller.managed := by
  have hsteps : ThreadSteps controller (action.perform controller).2 := hfollows controller
  rw [hperform] at hsteps
  exact hsteps.sameAssignment.managed

theorem managed_of_install {transfer : Transfer} {setup : Setup} {result : Except DmaError Unit}
    (hsetup : controller.setup = some setup)
    (hinstall : (install transfer channel setup).perform controller = (result, after)) :
    after.managed = controller.managed := by
  have hsame := (sameAssignment_install hsetup transfer channel).managed
  rwa [hinstall] at hsame

theorem awaitStopped_cases (hworld : world.Causes Disturbance.KeepsEnabled)
    (hmanaged : controller.managed ≤ 32) (channel : Nat) :
    ∃ result after, Attends world.Interrupts controller after ∧
      (discard (awaitState world channel (· = .stopped))).perform controller = (result, after) := by
  rcases awaitState_cases hworld hmanaged channel (· = .stopped) with
    ⟨reached, hattends, -, -, hperform⟩ | ⟨stuck, hattends, hperform⟩
  · exact ⟨_, reached, hattends, Attempt.perform_bind_of_ok hperform _⟩
  · exact ⟨_, stuck, hattends, Attempt.perform_bind_of_error hperform _⟩

/-- Before a channel is started it went on a course, or it was about to fault, was found
stopped after a while, and is not taken for running any more. -/
inductive Settled (channel : Nat) (interrupted : Prop) (before : Controller) :
    Except DmaError Unit × Controller → Prop
  | course {result after} (hcourses : Courses channel interrupted before after) :
      Settled channel interrupted before (result, after)
  | spared {waited : Controller} (hcourses : Courses channel interrupted before waited)
      (hentry : before.channelState channel = .faultCompleting)
      (hstopped : waited.channelState channel = .stopped) :
      Settled channel interrupted before (.ok (), waited.markStopped (.channel channel))

/-- A channel that has faulted is killed. -/
theorem courses_kill (hworld : world.Causes Disturbance.KeepsEnabled)
    (hmanaged : controller.managed ≤ 32) (hchannel : channel < 32)
    (hfaulting : controller.channelState channel = .faulting) :
    ∃ result after, Courses channel world.Interrupts controller after ∧
      Attempt.perform (do
        stopThread world (.channel channel)
        discard (awaitState world channel (· = .stopped))) controller = (result, after) := by
  rcases stopThread_cases hworld hmanaged hchannel with
    ⟨error, stuck, hattends, hstop⟩ | ⟨waited, after, hattends, hhalted, hstop⟩ |
    ⟨waited, hattends, hsame, hstopping, hstop⟩
  · exact ⟨_, stuck, hattends.courses, Attempt.perform_bind_of_error hstop _⟩
  · have hkept := managed_of_perform (follows_stopThread world _) hstop
    obtain ⟨result, last, hlater, hawait⟩ :=
      awaitStopped_cases hworld (hkept.trans_le hmanaged) channel
    exact ⟨result, last, (hattends.courses.trans (courses_halted hhalted)).trans hlater.courses,
      (Attempt.perform_bind_of_ok hstop _).trans hawait⟩
  · -- a channel that has faulted is not waited for
    have hwaited : waited = controller := hsame (by rw [hfaulting]; decide)
    rw [hwaited, hfaulting] at hstopping
    cases hstopping

/-- A channel that stopped is left alone. -/
theorem perform_spare (world : World) (hstopped : controller.channelState channel = .stopped) :
    Attempt.perform (do
        stopThread world (.channel channel)
        discard (awaitState world channel (· = .stopped))) controller =
      (.ok (), controller.markStopped (.channel channel)) := by
  have hdecide : (decidingState world (.channel channel)).perform controller =
      (.ok (.channel .stopped), controller) := by
    unfold decidingState
    rw [Attempt.perform_bind, Attempt.perform_get]
    dsimp only [threadState]
    rw [hstopped]
    rfl
  have hstop : (stopThread world (.channel channel)).perform controller =
      (.ok (), controller.markStopped (.channel channel)) :=
    Attempt.perform_bind_of_ok hdecide _
  have hawait : (awaitState world channel (· = .stopped)).perform
      (controller.markStopped (.channel channel)) = _ :=
    awaitState_of_accept (decide_eq_true hstopped)
  rw [Attempt.perform_bind_of_ok hstop]
  exact Attempt.perform_bind_of_ok hawait _

theorem settled_settle (hworld : world.Causes Disturbance.KeepsEnabled)
    (hmanaged : controller.managed ≤ 32) (hchannel : channel < 32) :
    Settled channel world.Interrupts controller
      ((settle world channel (controller.channelState channel)).perform controller) := by
  cases hstate : controller.channelState channel with
  | stopped => exact .course (Attends.refl controller).courses
  | faulting =>
      obtain ⟨result, after, hcourses, hkill⟩ := courses_kill hworld hmanaged hchannel hstate
      exact (show _ = (result, after) from hkill) ▸ .course hcourses
  | faultCompleting =>
      rcases awaitState_cases hworld hmanaged channel
        (fun state => state = .faulting || state = .killing) with
        ⟨reached, hattends, hkept, haccepted, hperform⟩ | ⟨stuck, hattends, hperform⟩
      · have hsettle : (settle world channel .faultCompleting).perform controller = _ :=
          Attempt.perform_bind_of_ok hperform _
        rw [hsettle]
        have hbound := hkept.trans_le hmanaged
        by_cases hkilling : reached.channelState channel = .killing
        · rw [if_pos hkilling]
          rcases awaitState_cases hworld hbound channel (· = .stopped) with
            ⟨last, hlater, hlast, hstopped, hawait⟩ | ⟨stuck, hlater, hawait⟩
          · have hdiscard : (discard (awaitState world channel (· = .stopped))).perform reached =
                (.ok (), last) := Attempt.perform_bind_of_ok hawait _
            have hstopped := of_decide_eq_true hstopped
            rw [Attempt.perform_bind_of_ok hdiscard]
            exact (perform_spare world hstopped).symm ▸
              .spared (hattends.trans hlater).courses hstate hstopped
          · have hdiscard : (discard (awaitState world channel (· = .stopped))).perform reached =
                (.error .timeout, stuck) := Attempt.perform_bind_of_error hawait _
            rw [Attempt.perform_bind_of_error hdiscard]
            exact .course (hattends.trans hlater).courses
        · have hfaulting : reached.channelState channel = .faulting := by
            simpa [hkilling] using haccepted
          rw [if_neg hkilling]
          obtain ⟨result, after, hcourses, hkill⟩ := courses_kill hworld hbound hchannel hfaulting
          exact (show _ = (result, after) from hkill) ▸ .course (hattends.courses.trans hcourses)
      · have hsettle : (settle world channel .faultCompleting).perform controller = _ :=
          Attempt.perform_bind_of_error hperform _
        rw [hsettle]
        exact .course hattends.courses
  | _ =>
      obtain ⟨result, after, hattends, hawait⟩ := awaitStopped_cases hworld hmanaged channel
      exact (show _ = (result, after) from hawait) ▸ .course hattends.courses

end Controller

end CyclicDma
