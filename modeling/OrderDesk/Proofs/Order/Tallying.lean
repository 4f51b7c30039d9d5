import OrderDesk.Proofs.Desk.Atomicity
import OrderDesk.Proofs.Metrics.Sampling
import OrderDesk.Proofs.Order.Notes

/-!
What the metrics tell of refunds. Every attempt to refund an order is counted under its result, and
the amount that it asks for is observed whatever the result is. So the observed amounts are those of
the refunds that have been committed as long as no attempt fails, and more than those otherwise.
-/

namespace OrderDesk

/-! ## Attempts -/

/-- An attempt to refund an order: the amount that is asked for, and whether it has been refunded. -/
structure RefundAttempt where
  cents : Int
  made : Bool
  deriving DecidableEq, Repr

namespace RefundAttempt

def result (attempt : RefundAttempt) : String :=
  if attempt.made then "success" else "error"

/-- The amount that is observed of an attempt. One beyond every double cannot be. -/
def observed (attempt : RefundAttempt) : Option Nat :=
  (Metrics.countable (.ok attempt.cents)).toOption

def Sound (attempt : RefundAttempt) : Prop :=
  attempt.made = true → 0 < attempt.cents ∧ attempt.observed = some attempt.cents.toNat

variable {attempts : List RefundAttempt}

/-- There are as many observations as attempts that have been made, and one more for each that has
failed with an amount that can be observed. -/
theorem length_observed (sound : ∀ attempt ∈ attempts, attempt.Sound) :
    (attempts.filterMap observed).length =
      (attempts.filter made).length +
        (attempts.filter fun attempt => !attempt.made && attempt.observed.isSome).length := by
  induction attempts with
  | nil => rfl
  | cons attempt rest induction =>
      have later := induction fun other member => sound other (List.mem_cons_of_mem _ member)
      have own := sound attempt (List.mem_cons_self ..)
      cases made : attempt.made with
      | true =>
          rw [List.filterMap_cons_some (own made).2, List.filter_cons_of_pos made,
            List.filter_cons_of_neg (by simp [made]), List.length_cons, List.length_cons, later]
          omega
      | false =>
          rw [List.filter_cons_of_neg (by simp [made])]
          cases observed : attempt.observed with
          | none =>
              rw [List.filterMap_cons_none observed, later,
                List.filter_cons_of_neg (by simp [observed])]
          | some cents =>
              rw [List.filterMap_cons_some observed,
                List.filter_cons_of_pos (by simp [made, observed]), List.length_cons,
                List.length_cons, later]
              omega

theorem filterMap_observed (sound : ∀ attempt ∈ attempts, attempt.Sound)
    (faithful : ∀ attempt ∈ attempts, attempt.observed.isSome = true → attempt.made = true) :
    attempts.filterMap observed = (attempts.filter made).map (·.cents.toNat) := by
  induction attempts with
  | nil => rfl
  | cons attempt rest induction =>
      have later := induction (fun other member => sound other (List.mem_cons_of_mem _ member))
        fun other member => faithful other (List.mem_cons_of_mem _ member)
      cases made : attempt.made with
      | true =>
          rw [List.filterMap_cons_some (sound attempt (List.mem_cons_self ..) made).2,
            List.filter_cons_of_pos made, List.map_cons, later]
      | false =>
          have unobserved : attempt.observed = none := by
            apply Option.not_isSome_iff_eq_none.mp
            intro seen
            have counts := faithful attempt (List.mem_cons_self ..) seen
            rw [made] at counts
            cases counts
          rw [List.filterMap_cons_none unobserved, List.filter_cons_of_neg (by simp [made]), later]

end RefundAttempt

namespace Metrics

def tallied (metrics : Metrics) (attempts : List RefundAttempt) : Metrics where
  attempts := metrics.attempts ++ attempts.map fun attempt =>
    ⟨.refund, ["admin", attempt.result], some .zero⟩
  refundAmounts := metrics.refundAmounts ++ attempts.map fun attempt => ⟨"admin", attempt.observed⟩

variable {metrics : Metrics} {attempts later : List RefundAttempt}

@[simp] theorem tallied_nil : metrics.tallied [] = metrics := by
  simp [tallied]

theorem tallied_append : metrics.tallied (attempts ++ later) =
    (metrics.tallied attempts).tallied later := by
  simp [tallied]

theorem about_tallied :
    (metrics.tallied attempts).about .refund = (metrics.about .refund).tallied attempts := by
  simp [about, tallied, List.filter_map, Function.comp_def]

theorem amountsOf_tallied : (metrics.tallied attempts).amountsOf "admin" =
    metrics.amountsOf "admin" ++ (attempts.filterMap (·.observed)).map hundredths := by
  simp [amountsOf_eq, tallied, List.filter_map, Function.comp_def, List.filterMap_map,
    List.map_filterMap]

theorem observeRefund_eq {α : Type} {cents : Int} {result : Option α} :
    observeRefund (some "admin") (.ok cents) (Service.resultWord result) Service.elapsed metrics =
      ((countable (.ok cents)).map fun _ => (), metrics.tallied [⟨cents, result.isSome⟩]) := by
  have actor : label (some "admin") = "admin" := by decide +kernel
  have failed : resultLabel (some "error") = "error" := by decide +kernel
  have succeeded : resultLabel (some "success") = "success" := by decide +kernel
  have word : resultLabel (Service.resultWord result) =
      RefundAttempt.result ⟨cents, result.isSome⟩ := by
    cases result with
    | none => exact failed
    | some value => exact succeeded
  rw [observeRefund, attempted, actor, word]
  rfl

theorem countAttempts_tallied {result : String} :
    (metrics.tallied attempts).countAttempts .refund ["admin", result] =
      metrics.countAttempts .refund ["admin", result] +
        (attempts.filter (·.result == result)).length := by
  simp [countAttempts_eq, tallied, List.filter_map, Function.comp_def]

end Metrics

/-! ## One refund -/

namespace Orders

variable {context : Context} {desk : Desk} {orderId : Int} {request : RefundRequest}

def refunding (actor : Option User) (orderId : Int) (request : RefundRequest) : Service Order := do
  let user ← Service.lift (admin actor)
  if request.amountCents ≤ 0 then Service.refuse .amountNotPositive
  Service.transaction (refundPart user orderId request)

theorem run_refunding (actor : Option User) :
    (∃ failure, (refunding actor orderId request).run context desk = (.error failure, desk)) ∨
      ∃ user result store,
        refundPart user orderId request context desk.store = .ok (result, store) ∧
        (refunding actor orderId request).run context desk = (.ok result, { desk with store }) := by
  rw [refunding, Service.run_bind, Service.run_lift]
  cases admin actor with
  | error failure => exact .inl ⟨failure, rfl⟩
  | ok user =>
      dsimp only
      split
      · exact .inl ⟨_, rfl⟩
      · rw [Service.run_transaction]
        cases context.settings.timeoutSeconds with
        | error fault => exact .inl ⟨_, rfl⟩
        | ok seconds =>
            cases done : Service.timed context.runsOut
                (refundPart user orderId request context desk.store) with
            | error failure => exact .inl ⟨_, rfl⟩
            | ok changed =>
                exact .inr ⟨user, changed.1, changed.2, (Service.timed_eq_ok.mp done).2, rfl⟩

theorem run_countRefund {service : Service Order} :
    let ran := service.run context desk
    (countRefund request service).run context desk =
      ((Metrics.countable (.ok request.amountCents)).mapError .broken >>= fun _ => ran.1,
        { ran.2 with metrics := ran.2.metrics.tallied [⟨request.amountCents, ran.1.isOk⟩] }) := by
  rw [countRefund, Service.run_sampled]
  rcases service.run context desk with ⟨result, between⟩
  simp only [Metrics.observeRefund_eq]
  cases result <;> cases Metrics.countable (.ok request.amountCents) <;> rfl

/-- What an attempt to refund an order leaves behind. -/
inductive Attempted (request : RefundRequest) (desk after : Desk) : Prop
  | made (row : OrderRefund) (amount : row.amountCents = request.amountCents)
      (positive : 0 < request.amountCents) (fits : Store.fitsColumn request.amountCents = true)
      (rows : after.store.orderRefunds = desk.store.orderRefunds ++ [row])
      (samples : after.metrics = desk.metrics.tallied [⟨request.amountCents, true⟩])
  | failed (same : after.store = desk.store)
      (samples : after.metrics = desk.metrics.tallied [⟨request.amountCents, false⟩])

theorem refund_attempted (actor : Option User) :
    Attempted request desk ((refund actor orderId request).run context desk).2 := by
  have counted : ((refund actor orderId request).run context desk).2 =
      ((countRefund request (refunding actor orderId request)).run context desk).2 :=
    Service.run_bind_quiet fun _ => .query _
  rw [counted, run_countRefund]
  rcases run_refunding actor with ⟨failure, ran⟩ | ⟨user, result, store, done, ran⟩
  · rw [ran]
    exact .failed rfl rfl
  · rcases refundPart_ok done with ⟨order, posted, between, crediting, ending, rfl⟩
    rcases crediting.grown with ⟨id, -, grown⟩
    rw [ran]
    exact .made (refundRow order user.id request posted id) rfl crediting.positive crediting.fits
      grown rfl

end Orders

/-! ## Steps -/

namespace Step

/-- The attempt to refund an order that is made by a step. Before there is one, its actor has to be
looked up. -/
def refundAttempt? (step : Step) : Option RefundAttempt :=
  match step.call.operation with
  | .refund actorId _ request =>
    if ((Service.userById actorId).run step.call.context step.desk).1.isOk then
      some ⟨request.amountCents, !(step.added (·.orderRefunds)).isEmpty⟩
    else none
  | _ => none

structure Tallies (step : Step) : Prop where
  samples : step.after.metrics.about .refund =
    (step.desk.metrics.about .refund).tallied step.refundAttempt?.toList
  rows : step.after.store.orderRefunds =
    step.desk.store.orderRefunds ++ step.added (·.orderRefunds)
  amounts : (step.added (·.orderRefunds)).map (·.amountCents) =
    (step.refundAttempt?.toList.filter (·.made)).map (·.cents)
  sound : ∀ attempt ∈ step.refundAttempt?, attempt.Sound

variable {step : Step}

theorem Tallies.of_kept (kept : step.after.metrics.about .refund = step.desk.metrics.about .refund)
    (rows : step.after.store.orderRefunds = step.desk.store.orderRefunds)
    (none : step.refundAttempt? = none) : step.Tallies := by
  have added : step.added (·.orderRefunds) = [] := by rw [Step.added, rows, List.drop_length]
  exact {
    samples := by rw [kept, none, Option.toList_none, Metrics.tallied_nil]
    rows := by rw [rows, added, List.append_nil]
    amounts := by
      rw [added, none]
      rfl
    sound := by
      intro attempt member
      rw [none] at member
      cases member }

theorem Tallies.of_attempted {request : RefundRequest}
    (attempted : Orders.Attempted request step.desk step.after)
    (attempt : step.refundAttempt? =
      some ⟨request.amountCents, !(step.added (·.orderRefunds)).isEmpty⟩) : step.Tallies := by
  cases attempted with
  | made row amount positive fits rows samples =>
      have added : step.added (·.orderRefunds) = [row] := Step.added_append rows
      rw [added] at attempt
      have size : request.amountCents.natAbs = request.amountCents.toNat := by omega
      have observed : RefundAttempt.observed ⟨request.amountCents, true⟩ =
          some request.amountCents.toNat := by
        rw [RefundAttempt.observed, Orders.countable_of_fitsColumn fits, size]
        rfl
      exact {
        samples := by
          rw [samples, Metrics.about_tallied, attempt]
          rfl
        rows := by rw [rows, added]
        amounts := by
          rw [added, attempt]
          exact congrArg (· :: []) amount
        sound := by
          rw [attempt]
          rintro _ ⟨⟩ -
          exact ⟨positive, observed⟩ }
  | failed kept samples =>
      have added : step.added (·.orderRefunds) = [] := Step.added_eq_nil kept
      rw [added] at attempt
      exact {
        samples := by
          rw [samples, Metrics.about_tallied, attempt]
          rfl
        rows := by rw [kept, added, List.append_nil]
        amounts := by
          rw [added, attempt]
          rfl
        sound := by
          rw [attempt]
          rintro _ ⟨⟩ ⟨⟩ }

theorem tallies_of_refund {actorId : Option Int} {orderId : Int} {request : RefundRequest}
    (asked : step.call.operation = .refund actorId orderId request) : step.Tallies := by
  have left : step.after =
      ((Operation.refund actorId orderId request).perform.run step.call.context step.desk).2 := by
    rw [← asked]
    rfl
  have same := Service.Quiet.userById actorId step.call.context step.desk
  rw [Operation.perform, Service.run_bind] at left
  rcases looked : (Service.userById actorId).run step.call.context step.desk with ⟨found, between⟩
  rw [looked] at left same
  rcases same with rfl
  cases found with
  | error failure =>
      -- The refund is not reached, so there is nothing to count.
      apply Tallies.of_kept
      · rw [left]
      · rw [left]
      · rw [refundAttempt?, asked]
        dsimp only
        rw [looked]
        rfl
  | ok actor =>
      dsimp only at left
      rw [Service.run_bind_quiet fun _ => .pure _] at left
      apply Tallies.of_attempted
      · rw [left]
        exact Orders.refund_attempted actor
      · rw [refundAttempt?, asked]
        dsimp only
        rw [looked]
        rfl

theorem tallies_of_other
    (other : ∀ actorId orderId request, step.call.operation ≠ .refund actorId orderId request) :
    step.Tallies := by
  have uncounted : step.call.operation.activity? ≠ some .refund := by
    cases operation : step.call.operation with
    | refund actorId orderId request => exact absurd operation (other _ _ _)
    | _ => simp [Operation.activity?]
  apply Tallies.of_kept
  · exact Operation.keeps_perform uncounted step.call.context step.desk
  · rcases step.commits with same | committed
    · rw [same]
    · exact committed.orderRefunds_eq other
  · rw [refundAttempt?]
    split
    · next asked => exact absurd asked (other _ _ _)
    · rfl

theorem tallies (step : Step) : step.Tallies := by
  by_cases refund :
      ∃ actorId orderId request, step.call.operation = .refund actorId orderId request
  · rcases refund with ⟨actorId, orderId, request, asked⟩
    exact tallies_of_refund asked
  · apply tallies_of_other
    intro actorId orderId request asked
    exact refund ⟨actorId, orderId, request, asked⟩

theorem made_eq_answered (intact : step.desk.store.Intact) {attempt : RefundAttempt}
    (member : attempt ∈ step.refundAttempt?) : attempt.made = step.answer.isOk := by
  rw [refundAttempt?] at member
  split at member
  · next actorId orderId request asked =>
      split at member
      · cases member
        cases answered : step.answer with
        | error failure =>
            -- A row that had been committed could be shown, so the call would have been answered.
            have atomic : Service.Atomic step.call.operation.perform step.call.context step.desk
              fun _ _ => True := Operation.perform_atomic intact _
            have kept : step.after.store = step.desk.store := by
              rcases atomic with untouched | ⟨reply, answers, -⟩
              · exact untouched.store_eq
              · rw [answer, Call.outcome, answers] at answered
                cases answered
            have added : step.added (·.orderRefunds) = [] := Step.added_eq_nil kept
            rw [added]
            rfl
        | ok reply =>
            have ran : (Operation.refund actorId orderId request).perform.run step.call.context
                step.desk = (.ok reply, step.after) := by
              rw [← asked, ← answered]
              rfl
            rcases Operation.asking_ok ran with ⟨shown, refunding, -⟩
            rcases Orders.refund_ok refunding
              with ⟨user, order, posted, between, result, -, crediting, -, saved, -⟩
            rcases crediting.grown with ⟨id, -, grown⟩
            have rows : step.after.store.orderRefunds = step.desk.store.orderRefunds ++
                [Orders.refundRow order user.id request posted id] := by
              rw [saved]
              exact grown
            have added : step.added (·.orderRefunds) = [_] := Step.added_append rows
            rw [added]
            rfl
      · cases member
  · cases member

end Step

/-! ## Runs -/

namespace Desk

variable {desk : Desk} {call : Call} {calls rest : List Call}

def refundAttempts (desk : Desk) (calls : List Call) : List RefundAttempt :=
  (desk.steps calls).filterMap Step.refundAttempt?

def refundRows (desk : Desk) (calls : List Call) : List OrderRefund :=
  (desk.steps calls).flatMap (·.added (·.orderRefunds))

theorem refundAttempts_cons : desk.refundAttempts (call :: rest) =
    (Step.mk desk call).refundAttempt?.toList ++ (desk.after call).refundAttempts rest := by
  rw [refundAttempts, steps]
  cases attempt : (Step.mk desk call).refundAttempt? with
  | none => exact List.filterMap_cons_none attempt
  | some made => exact List.filterMap_cons_some attempt

theorem refundRows_cons : desk.refundRows (call :: rest) =
    (Step.mk desk call).added (·.orderRefunds) ++ (desk.after call).refundRows rest :=
  List.flatMap_cons

theorem about_afterAll (desk : Desk) (calls : List Call) :
    (desk.afterAll calls).metrics.about .refund =
      (desk.metrics.about .refund).tallied (desk.refundAttempts calls) := by
  induction calls generalizing desk with
  | nil => exact Metrics.tallied_nil.symm
  | cons call rest induction =>
      have samples := (Step.mk desk call).tallies.samples
      rw [refundAttempts_cons, Metrics.tallied_append, ← samples]
      exact induction (desk.after call)

theorem orderRefunds_afterAll (desk : Desk) (calls : List Call) :
    (desk.afterAll calls).store.orderRefunds =
      desk.store.orderRefunds ++ desk.refundRows calls := by
  induction calls generalizing desk with
  | nil => exact (List.append_nil _).symm
  | cons call rest induction =>
      have rows := (Step.mk desk call).tallies.rows
      rw [refundRows_cons, ← List.append_assoc, ← rows]
      exact induction (desk.after call)

theorem amounts_refundRows (desk : Desk) (calls : List Call) :
    (desk.refundRows calls).map (·.amountCents) =
      ((desk.refundAttempts calls).filter (·.made)).map (·.cents) := by
  induction calls generalizing desk with
  | nil => rfl
  | cons call rest induction =>
      rw [refundRows_cons, refundAttempts_cons, List.map_append, List.filter_append,
        List.map_append, (Step.mk desk call).tallies.amounts, induction]

theorem sound_of_mem_refundAttempts {attempt : RefundAttempt}
    (member : attempt ∈ desk.refundAttempts calls) : attempt.Sound := by
  rcases List.mem_filterMap.mp member with ⟨step, -, attempts⟩
  exact step.tallies.sound attempt attempts

structure RefundsTallied (desk : Desk) (calls : List Call) : Prop where
  /-- Only attempts to refund an order are sampled as such, each of them once. -/
  samples : (desk.afterAll calls).metrics.about .refund =
    (desk.metrics.about .refund).tallied (desk.refundAttempts calls)
  /-- So the counters tell how many there have been with each result, … -/
  counted : ∀ result,
    (desk.afterAll calls).metrics.countAttempts .refund ["admin", result] =
      desk.metrics.countAttempts .refund ["admin", result] +
        ((desk.refundAttempts calls).filter (·.result == result)).length
  /-- … and the histogram tells what they have asked for, whatever came of it. -/
  observed : (desk.afterAll calls).metrics.amountsOf "admin" =
    desk.metrics.amountsOf "admin" ++
      ((desk.refundAttempts calls).filterMap (·.observed)).map Metrics.hundredths
  /-- Only those that are made commit a row, which has the amount that was asked for. -/
  committed : (desk.afterAll calls).store.orderRefunds =
    desk.store.orderRefunds ++ desk.refundRows calls
  amounts : (desk.refundRows calls).map (·.amountCents) =
    ((desk.refundAttempts calls).filter (·.made)).map (·.cents)
  positive : ∀ row ∈ desk.refundRows calls, 0 < row.amountCents
  /-- The histogram has one value more for every attempt that fails with an amount that can be
  observed; … -/
  surplus : ((desk.refundAttempts calls).filterMap (·.observed)).length =
    (desk.refundRows calls).length + ((desk.refundAttempts calls).filter fun attempt =>
      !attempt.made && attempt.observed.isSome).length
  /-- … where there is none, its values are the amounts of the rows. -/
  faithful : (∀ attempt ∈ desk.refundAttempts calls,
      attempt.observed.isSome = true → attempt.made = true) →
    (desk.refundAttempts calls).filterMap (·.observed) =
      (desk.refundRows calls).map (·.amountCents.toNat)
  /-- As long as all rows can be read, the attempts that are made are those that are answered. -/
  answered : desk.store.Intact → ∀ step ∈ desk.steps calls, ∀ attempt ∈ step.refundAttempt?,
    attempt.made = step.answer.isOk

theorem length_refundRows (desk : Desk) (calls : List Call) :
    (desk.refundRows calls).length = ((desk.refundAttempts calls).filter (·.made)).length := by
  have amounts := congrArg List.length (amounts_refundRows desk calls)
  rwa [List.length_map, List.length_map] at amounts

/-- The counters of refunds count every attempt once, but the histogram of refunded amounts takes in
the amounts of those that have failed, too. -/
theorem refunds_tallied (desk : Desk) (calls : List Call) : desk.RefundsTallied calls where
  samples := about_afterAll desk calls
  counted := by
    intro result
    rw [← Metrics.countAttempts_about, about_afterAll, Metrics.countAttempts_tallied,
      Metrics.countAttempts_about]
  observed := by
    rw [← Metrics.amountsOf_about, about_afterAll, Metrics.amountsOf_tallied,
      Metrics.amountsOf_about]
  committed := orderRefunds_afterAll desk calls
  amounts := amounts_refundRows desk calls
  positive := by
    intro row member
    have amount : row.amountCents ∈ (desk.refundRows calls).map (·.amountCents) :=
      List.mem_map_of_mem member
    rw [amounts_refundRows] at amount
    rcases List.mem_map.mp amount with ⟨attempt, made, same⟩
    rcases List.mem_filter.mp made with ⟨present, made⟩
    rw [← same]
    exact (sound_of_mem_refundAttempts present made).1
  surplus := by
    rw [length_refundRows]
    exact RefundAttempt.length_observed fun _ => sound_of_mem_refundAttempts
  faithful := by
    intro faithful
    have observed := RefundAttempt.filterMap_observed
      (fun _ => sound_of_mem_refundAttempts) faithful
    have amounts := congrArg (List.map Int.toNat) (amounts_refundRows desk calls)
    rw [List.map_map, List.map_map] at amounts
    exact observed.trans amounts.symm
  answered intact step member attempt attempted :=
    Step.made_eq_answered (steps_induction Store.Intact intact
      (fun _ _ _ _ _ intact committed => committed.intact intact) step member) attempted

def sampleRefusals : List Call := sampleCalls ++ [
  sampleCall 50 (.refund (some 2) 2 { amountCents := 5000 }),
  sampleCall 60 (.refund (some 2) 9 { amountCents := 100 })]

theorem sample_refunds_tallied :
    sample.RefundsTallied sampleRefusals ∧
      sample.refundAttempts sampleRefusals = [⟨400, true⟩, ⟨5000, false⟩, ⟨100, false⟩] ∧
      (sample.afterAll sampleRefusals).metrics.countAttempts .refund ["admin", "success"] = 1 ∧
      (sample.afterAll sampleRefusals).metrics.countAttempts .refund ["admin", "error"] = 2 :=
  ⟨refunds_tallied _ _, by decide +kernel, by decide +kernel, by decide +kernel⟩

theorem sample_refusals_observed :
    (sample.refundRows sampleRefusals).map (·.amountCents) = [400] ∧
      (sample.afterAll sampleRefusals).metrics.amountsOf "admin" =
        [400, 5000, 100].map Metrics.hundredths ∧
      (sample.afterAll sampleRefusals).metrics.value "znp_order_refund_amount_count"
        [("actor", "admin")] = .ofInt 3 :=
  ⟨by decide +kernel, by decide +kernel, by decide +kernel⟩

end Desk

end OrderDesk
