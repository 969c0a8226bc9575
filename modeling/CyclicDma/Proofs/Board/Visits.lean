import CyclicDma.Proofs.Board.Moments

/-! # Visits from moment to moment

A visit begins when the periods of a channel are taken. It goes on while it calls
what it found, also while other visits come in between, until it wakes whoever
waited. Where a visit comes from and what becomes of it is said here once.
-/

namespace CyclicDma

/-- The visit is what became of a former one when some of its calls were made. -/
structure Visit.Continues (visit former : Visit) : Prop where
  number : visit.number = former.number
  controller : visit.controller = former.controller
  channel : visit.channel = former.channel
  waker : visit.waker = former.waker
  calls : visit.calls <:+ former.calls

namespace Visit.Continues

variable {first second third : Visit}

theorem refl (visit : Visit) : visit.Continues visit :=
  ⟨rfl, rfl, rfl, rfl, List.suffix_rfl⟩

theorem trans (hlater : third.Continues second) (hearlier : second.Continues first) :
    third.Continues first where
  number := hlater.number.trans hearlier.number
  controller := hlater.controller.trans hearlier.controller
  channel := hlater.channel.trans hearlier.channel
  waker := hlater.waker.trans hearlier.waker
  calls := hlater.calls.trans hearlier.calls

end Visit.Continues

namespace Moment

variable {allowed : Moment → Nat → Act → Prop} {start before after moment : Moment}
variable {visit : Visit} {index channel : Nat} {registration : Registration}

/-- The visit that begins when the periods of a channel are taken. -/
def beginning (index channel : Nat) (moment : Moment) : Visit where
  number := moment.begun
  controller := index
  channel := channel
  calls := Driver.calls (moment.board.stateOf index channel).pending.toNat
    (moment.board.stateOf index channel).registrations
  waker := (moment.board.stateOf index channel).waker

/-- What a visit calls was registered when it began. -/
theorem mem_of_mem_beginning (hmem : registration ∈ (moment.beginning index channel).calls) :
    registration ∈ (moment.board.stateOf index channel).registrations := by
  obtain ⟨round, hround, hregistration⟩ := List.mem_flatten.mp hmem
  rwa [(List.mem_replicate.mp hround).2] at hregistration

/-! ## Single acts -/

theorem Does.visits_take (hdoes : Does index (.take channel) before after) :
    after.visits = before.beginning index channel :: before.visits := by
  cases hdoes with
  | act hfound _ hvisits =>
      cases hvisits with
      | keep hkeeps => exact hkeeps.elim
      | «begin» => rw [beginning, Board.stateOf_eq hfound]

/-- Who calls a registration is the newest visit. -/
theorem Does.visits_call (hdoes : Does index (.call channel registration) before after) :
    ∃ number rest waker visits,
      before.visits = ⟨number, index, channel, registration :: rest, waker⟩ :: visits ∧
        after.visits = ⟨number, index, channel, rest, waker⟩ :: visits := by
  cases hdoes with
  | act _ _ hvisits =>
      cases hvisits with
      | keep hkeeps => exact hkeeps.elim
      | call number channel registration rest waker visits => exact ⟨_, _, _, _, rfl, rfl⟩

/-- A visit that is under way was so before, or has just begun. -/
theorem Next.mem_visits (hnext : Next allowed before after) (hmem : visit ∈ after.visits) :
    (∃ former ∈ before.visits, visit.Continues former) ∨
      ∃ index channel, allowed before index (.take channel) ∧
        Does index (.take channel) before after ∧ visit = before.beginning index channel := by
  have hkept : ∀ visits : List Visit, visit ∈ visits → visits = before.visits →
      ∃ former ∈ before.visits, visit.Continues former :=
    fun visits hmem hsame => ⟨visit, hsame ▸ hmem, .refl visit⟩
  cases hnext with
  | hold => exact .inl (hkept _ hmem rfl)
  | @act index act _ _ hallowed hdoes =>
      cases hdoes with
      | act hfound hdriver hvisits =>
          have hdoes := Does.act hfound hdriver hvisits
          cases hvisits with
          | keep => exact .inl (hkept _ hmem rfl)
          | «begin» channel =>
              rw [hdoes.visits_take] at hmem
              rcases List.mem_cons.mp hmem with rfl | hmem
              · exact .inr ⟨index, channel, hallowed, hdoes, rfl⟩
              · exact .inl (hkept _ hmem rfl)
          | call number channel registration rest waker visits =>
              rcases List.mem_cons.mp hmem with rfl | hmem
              · exact .inl ⟨_, List.mem_cons_self,
                  rfl, rfl, rfl, rfl, List.suffix_cons registration rest⟩
              · exact .inl ⟨visit, List.mem_cons_of_mem _ hmem, .refl visit⟩
          | finish => exact .inl ⟨visit, List.mem_cons_of_mem _ hmem, .refl visit⟩

/-- A visit that is under way stays so, or is over. -/
theorem Next.visit_goes_on (hnext : Next allowed before after) (hmem : visit ∈ before.visits) :
    (∃ later ∈ after.visits, later.Continues visit) ∨
      Does visit.controller (.finish visit.channel visit.waker) before after := by
  cases hnext with
  | hold => exact .inl ⟨visit, hmem, .refl visit⟩
  | act _ hdoes =>
      cases hdoes with
      | act hfound hdriver hvisits =>
          have hdoes := Does.act hfound hdriver hvisits
          cases hvisits with
          | keep => exact .inl ⟨visit, hmem, .refl visit⟩
          | «begin» => exact .inl ⟨visit, List.mem_cons_of_mem _ hmem, .refl visit⟩
          | call number channel registration rest waker visits =>
              rcases List.mem_cons.mp hmem with rfl | hmem
              · exact .inl ⟨_, List.mem_cons_self,
                  rfl, rfl, rfl, rfl, List.suffix_cons registration rest⟩
              · exact .inl ⟨visit, List.mem_cons_of_mem _ hmem, .refl visit⟩
          | finish =>
              rcases List.mem_cons.mp hmem with rfl | hmem
              · exact .inr hdoes
              · exact .inl ⟨visit, hmem, .refl visit⟩

/-! ## Runs -/

/-- The visit began at a moment after the start, when the periods of its channel were
taken. -/
def BeganAt (allowed : Moment → Nat → Act → Prop) (start began : Moment) (visit : Visit)
    (moment : Moment) : Prop :=
  ∃ taken, Unfolds allowed start began ∧ allowed began visit.controller (.take visit.channel) ∧
    Does visit.controller (.take visit.channel) began taken ∧ Unfolds allowed taken moment ∧
    visit.Continues (began.beginning visit.controller visit.channel)

/-- A visit that is under way was so from the start, or began since. -/
theorem Unfolds.mem_visits (hunfolds : Unfolds allowed start moment)
    (hmem : visit ∈ moment.visits) :
    (∃ former ∈ start.visits, visit.Continues former) ∨
      ∃ began, BeganAt allowed start began visit moment := by
  induction hunfolds generalizing visit with
  | refl => exact .inl ⟨visit, hmem, .refl visit⟩
  | tail hunfolds hnext ih =>
      rcases hnext.mem_visits hmem with
        ⟨former, hformer, hcontinues⟩ | ⟨index, channel, hallowed, hdoes, rfl⟩
      · rcases ih hformer with
          ⟨first, hfirst, hfollows⟩ | ⟨began, taken, hreached, hallowed, htaken, hleads, hfollows⟩
        · exact .inl ⟨first, hfirst, hcontinues.trans hfollows⟩
        · rw [← hcontinues.controller, ← hcontinues.channel] at hallowed htaken hfollows
          exact .inr ⟨began, taken, hreached, hallowed, htaken, hleads.tail hnext,
            hcontinues.trans hfollows⟩
      · exact .inr ⟨_, _, hunfolds, hallowed, hdoes, .refl, .refl _⟩

/-- A visit that is under way stays so, until it is over. -/
theorem Unfolds.visit_goes_on (hunfolds : Unfolds allowed start moment)
    (hmem : visit ∈ start.visits) :
    (∃ later ∈ moment.visits, later.Continues visit) ∨
      ∃ before after, Unfolds allowed start before ∧
        Does visit.controller (.finish visit.channel visit.waker) before after ∧
        Unfolds allowed after moment := by
  induction hunfolds with
  | refl => exact .inl ⟨visit, hmem, .refl visit⟩
  | tail hunfolds hnext ih =>
      rcases ih with ⟨later, hlater, hcontinues⟩ | ⟨before, after, hbefore, hdoes, hafter⟩
      · rcases hnext.visit_goes_on hlater with ⟨last, hlast, hfollows⟩ | hdoes
        · exact .inl ⟨last, hlast, hfollows.trans hcontinues⟩
        · rw [hcontinues.controller, hcontinues.channel, hcontinues.waker] at hdoes
          exact .inr ⟨_, _, hunfolds, hdoes, .refl⟩
      · exact .inr ⟨before, after, hbefore, hdoes, hafter.tail hnext⟩

end Moment

end CyclicDma
