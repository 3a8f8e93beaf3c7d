import Vigil.Proofs.Clock

/-!
When pings are sent. Every ping has one cause: the start of its session, the end of the ping before
it, or a new connection. It is sent exactly when that makes it due, an interval later or at once,
and no cause makes two. If the chain is live when its ping falls due, the ping is sent before the
clock moves on.
-/

namespace Vigil

/-- Whether an entry can stand in the history of a chain after another one, or at its beginning. -/
def Entry.Follows (settings : FaultDetectionConfig) (before : Option Entry) (e : Entry) : Prop :=
  match before, e.mark with
  | none, .due o => o = .started ∨ o = .reconnected
  | none, .ping => False
  | some cause, .ping => ∃ o, cause.mark = .due o ∧ e.session = cause.session ∧
      e.time = cause.time + (o.delay settings).millis
  | some ping, .due o => (o = .answered ∨ o = .failed) ∧ ping.mark = .ping

/-- A history in which causes and pings alternate, and every ping is sent when its cause made it
due. -/
def Paced (settings : FaultDetectionConfig) (history : List Entry) : Prop :=
  ∀ before e after, history = before ++ e :: after → e.Follows settings before.getLast?

theorem paced_nil (settings : FaultDetectionConfig) : Paced settings [] := by
  intro before e after split
  simp at split

theorem Paced.concat {settings : FaultDetectionConfig} {history : List Entry}
    (paced : Paced settings history) {e : Entry} (follows : e.Follows settings history.getLast?) :
    Paced settings (history ++ [e]) := by
  intro before x after split
  rcases List.eq_nil_or_concat after with rfl | ⟨rest, last, rfl⟩
  · obtain ⟨rfl, same⟩ := List.append_inj' split rfl
    obtain rfl := List.head_eq_of_cons_eq same
    exact follows
  · rw [List.concat_eq_append, ← List.cons_append, ← List.append_assoc] at split
    obtain ⟨earlier, _⟩ := List.append_inj' split rfl
    exact paced before x rest earlier

namespace Timed

variable {κ : Type}

/-- The pings under way are those of the histories. -/
structure Punctual (t : Timed κ) : Prop where
  steady : t.Steady
  fresh : ∀ e ∈ t.history, e.chain < t.watch.detector.created
  paced : ∀ p, Paced t.watch.detector.settings (t.course p)
  /-- What is scheduled for the live chain has a cause, and waits for the moment that this says. -/
  scheduled : ∀ id p delay, (id, .scheduled p delay) ∈ t.watch.activities →
    t.watch.detector.session.pinger = some p →
    ∃ cause o, (t.course p).getLast? = some cause ∧ cause.mark = .due o ∧
      cause.session = t.watch.latest ∧
      cause.time + (o.delay t.watch.detector.settings).millis = t.since id + delay.millis
  /-- Whatever else a chain waits for, it has sent its ping. -/
  awaiting : ∀ x ∈ t.watch.activities, ∀ p, x.2.run = some p → (∀ delay, x.2 ≠ .scheduled p delay) →
    ∃ ping, (t.course p).getLast? = some ping ∧ ping.mark = .ping

theorem create_punctual (settings : FaultDetectionConfig) (clusterName : ClusterName) :
    (create settings clusterName : Timed κ).Punctual where
  steady := create_steady settings clusterName
  fresh := by simp [create]
  paced p := paced_nil settings
  scheduled := by simp [create, Watch.create]
  awaiting := by simp [create, Watch.create]

/-- What is noted of a move is noted of a new chain, or of the one whose run goes on. -/
theorem entries_chain {t : Timed κ} {m : Move κ} {new : Option (Activity κ)}
    {pinged : List PingerId} (begins : t.watch.Begins m new pinged (t.watch.step true m))
    (turn : t.watch.Turn m (t.watch.step true m) new pinged) :
    ∀ e ∈ t.entries m,
      (e.chain = t.watch.detector.created ∧
        (t.watch.step true m).detector.created = t.watch.detector.created + 1) ∨
      ∃ id a, m.lets = some id ∧ t.watch.activities.lookup id = some a ∧ a.run = some e.chain := by
  rw [entries_eq begins]
  intro e noted
  cases turn with
  | quiet new unmarked _ _ => simp [unmarked] at noted
  | spent id p request sent o new lets here marked _ _ _ _ =>
    obtain rfl : e = ⟨p, _, t.now, .due o⟩ := by simpa [marked] using noted
    exact .inr ⟨id, _, lets, here, rfl⟩
  | opened o marked _ grown _ _ =>
    obtain rfl : e = ⟨t.watch.detector.created, _, t.now, .due o⟩ := by simpa [marked] using noted
    exact .inl ⟨rfl, grown⟩
  | answered id p request sent lets here marked _ _ _ =>
    obtain rfl : e = ⟨p, _, t.now, .due .answered⟩ := by simpa [marked] using noted
    exact .inr ⟨id, _, lets, here, rfl⟩
  | resent id p request sent lets here marked _ _ _ =>
    have chain : e.chain = p := by
      simp only [marked, Option.toList_some, List.map_cons, List.map_nil, List.cons_append,
        List.nil_append, List.mem_cons, List.not_mem_nil, or_false] at noted
      rcases noted with rfl | rfl <;> rfl
    exact .inr ⟨id, _, lets, here, congrArg some chain.symm⟩
  | sent id p delay request lets here marked _ _ _ =>
    obtain rfl : e = ⟨p, _, t.now, .ping⟩ := by simpa [marked] using noted
    exact .inr ⟨id, _, lets, here, rfl⟩

namespace Punctual

variable {t : Timed κ} {m : Move κ}

/-- Nothing is noted of a chain whose run is not the one that goes on. -/
theorem untouched (k : t.Punctual) {x : Nat × Activity κ}
    (left : x ∈ (t.watch.others m).activities) {p : PingerId} (run : x.2.run = some p) :
    (t.go m).course p = t.course p := by
  obtain ⟨new, pinged, begins, turn⟩ := k.steady.valid.step_turns m
  have none : (t.entries m).filter (·.chain == p) = [] := by
    refine List.filter_eq_nil_iff.mpr fun e noted => ?_
    rw [beq_iff_eq]
    rintro rfl
    rcases entries_chain begins turn e noted with ⟨new, _⟩ | ⟨id, a, lets, here, same⟩
    · have old := (k.steady.valid.fits x (Watch.others_mem left).1).started run
      exact absurd new (Nat.ne_of_lt old)
    · exact k.steady.chained.others_run k.steady.valid lets here same x left run
  rw [go_course, none, List.append_nil]

/-- What is noted of one chain in a move. -/
theorem course_noted {p : PingerId} {es : List Entry} (noted : t.entries m = es)
    (same : ∀ e ∈ es, e.chain = p) : (t.go m).course p = t.course p ++ es := by
  have all : es.filter (·.chain == p) = es :=
    List.filter_eq_self.mpr fun e he => by simp [same e he]
  rw [go_course, noted, all]

theorem course_other {p q : PingerId} {es : List Entry} (noted : t.entries m = es)
    (same : ∀ e ∈ es, e.chain = p) (other : q ≠ p) : (t.go m).course q = t.course q := by
  have none : es.filter (·.chain == q) = [] :=
    List.filter_eq_nil_iff.mpr fun e he => by simpa [same e he] using other.symm
  rw [go_course, noted, none, List.append_nil]

/-- What is noted of one chain only has to follow from what was noted of it before. -/
theorem paced_of_noted (k : t.Punctual) (p : PingerId) {es : List Entry}
    (noted : t.entries m = es) (same : ∀ e ∈ es, e.chain = p)
    (paced : Paced t.watch.detector.settings (t.course p ++ es)) :
    ∀ q, Paced (t.go m).watch.detector.settings ((t.go m).course q) := by
  intro q
  rw [go_settings k.steady.valid]
  by_cases here : q = p
  · rw [here, course_noted noted same]
    exact paced
  · rw [course_other noted same here]
    exact k.paced q

theorem course_unborn (k : t.Punctual) : t.course t.watch.detector.created = [] := by
  refine List.filter_eq_nil_iff.mpr fun e he => ?_
  simpa using Nat.ne_of_lt (k.fresh e he)

/-- The run of a chain that waits for an answer has sent its ping. -/
theorem pinged_last (k : t.Punctual) {id : Nat} {p : PingerId} {request : PingRequest}
    {sent : Nat} (here : t.watch.activities.lookup id = some (.pinging p request sent)) :
    ∃ ping, (t.course p).getLast? = some ping ∧ ping.mark = .ping :=
  k.awaiting (id, .pinging p request sent) (Watch.mem_of_lookup here) p rfl nofun

/-- The end of a ping is noted right after that ping. -/
theorem paced_end (k : t.Punctual) {id : Nat} {p : PingerId} {request : PingRequest} {sent : Nat}
    (here : t.watch.activities.lookup id = some (.pinging p request sent)) {e : Entry}
    {o : Occasion} (mark : e.mark = .due o) (ended : o = .answered ∨ o = .failed) :
    Paced t.watch.detector.settings (t.course p ++ [e]) := by
  obtain ⟨ping, last, was⟩ := k.pinged_last here
  refine (k.paced p).concat ?_
  unfold Entry.Follows
  rw [last, mark]
  exact ⟨ended, was⟩

/-- A ping of the live chain that goes on was due at this very moment. -/
theorem scheduled_due (k : t.Punctual) (permitted : t.permits m = true) {id : Nat} {p : PingerId}
    {delay : Duration} (lets : m.lets = some id)
    (here : t.watch.activities.lookup id = some (.scheduled p delay))
    (live : t.watch.detector.session.pinger = some p) :
    ∃ cause o, (t.course p).getLast? = some cause ∧ cause.mark = .due o ∧
      cause.session = t.watch.latest ∧
      t.now = cause.time + (o.delay t.watch.detector.settings).millis := by
  obtain ⟨cause, o, last, mark, session, moment⟩ :=
    k.scheduled id p delay (Watch.mem_of_lookup here) live
  exact ⟨cause, o, last, mark, session, (k.steady.on_time permitted lets here).trans moment.symm⟩

theorem latest_live (k : t.Punctual) (m : Move κ) {p : PingerId}
    (old : p < t.watch.detector.created)
    (live : (t.watch.step true m).detector.session.pinger = some p) :
    (t.watch.step true m).latest = t.watch.latest :=
  latest_eq (k.steady.valid.step_live true m old live).2

theorem go_paced (k : t.Punctual) (permitted : t.permits m = true) :
    ∀ p, Paced (t.go m).watch.detector.settings ((t.go m).course p) := by
  obtain ⟨new, pinged, begins, turn⟩ := k.steady.valid.step_turns m
  have noted := entries_eq begins
  cases turn with
  | quiet new unmarked _ _ =>
    rw [unmarked] at noted
    intro p
    rw [go_settings k.steady.valid, go_course, noted]
    simpa using k.paced p
  | spent id p request sent o new lets here marked ended _ _ _ =>
    rw [marked] at noted
    refine k.paced_of_noted p noted (by simp) ?_
    exact k.paced_end here rfl ended
  | opened o marked first _ _ _ =>
    rw [marked] at noted
    refine k.paced_of_noted t.watch.detector.created noted (by simp) ?_
    -- The chain is new, so this is the first that is noted of it.
    rw [k.course_unborn]
    refine (paced_nil _).concat ?_
    change o = .started ∨ o = .reconnected
    rcases first with started | ⟨reconnected, _⟩
    · exact .inl started
    · exact .inr reconnected
  | answered id p request sent lets here marked _ _ _ =>
    rw [marked] at noted
    refine k.paced_of_noted p noted (by simp) ?_
    exact k.paced_end here rfl (.inl rfl)
  | resent id p request sent lets here marked _ _ _ =>
    rw [marked] at noted
    refine k.paced_of_noted p noted (by simp) ?_
    let failed : Entry := ⟨p, (t.watch.step true m).latest, t.now, .due .failed⟩
    let ping : Entry := ⟨p, (t.watch.step true m).latest, t.now, .ping⟩
    have ended : Paced t.watch.detector.settings (t.course p ++ [failed]) :=
      k.paced_end here rfl (.inr rfl)
    have again : Paced t.watch.detector.settings (t.course p ++ [failed] ++ [ping]) := by
      refine ended.concat ?_
      have atOnce : ping.time =
          failed.time + (Occasion.failed.delay t.watch.detector.settings).millis := by
        simp [ping, failed, Occasion.delay, Duration.millis]
      rw [List.getLast?_concat]
      exact ⟨.failed, rfl, rfl, atOnce⟩
    rwa [List.append_assoc] at again
  | sent id p delay request lets here unmarked live still _ =>
    rw [unmarked] at noted
    refine k.paced_of_noted p noted (by simp) ?_
    obtain ⟨cause, o, last, mark, session, moment⟩ := k.scheduled_due permitted lets here live
    have old : p < t.watch.detector.created := k.steady.valid.sound.created p live
    refine (k.paced p).concat ?_
    rw [last]
    exact ⟨o, mark, (k.latest_live m old still).trans session.symm, moment⟩

/-- What is left scheduled is still scheduled for the same cause. -/
theorem go_scheduled_left (k : t.Punctual) {id : Nat} {p : PingerId} {delay : Duration}
    (left : (id, .scheduled p delay) ∈ (t.watch.others m).activities)
    (live : (t.go m).watch.detector.session.pinger = some p) :
    ∃ cause o, ((t.go m).course p).getLast? = some cause ∧ cause.mark = .due o ∧
      cause.session = (t.go m).watch.latest ∧
      cause.time + (o.delay (t.go m).watch.detector.settings).millis =
        (t.go m).since id + delay.millis := by
  have old := (Watch.others_mem left).1
  have started : p < t.watch.detector.created := k.steady.valid.fits _ old
  have before := (k.steady.valid.step_live true m started live).1
  obtain ⟨cause, o, last, mark, session, moment⟩ := k.scheduled id p delay old before
  refine ⟨cause, o, ?_, mark, ?_, ?_⟩
  · rw [k.untouched left rfl]
    exact last
  · exact session.trans (k.latest_live m started live).symm
  · rw [go_settings k.steady.valid, go_since_old k.steady.valid m old]
    exact moment

theorem go_scheduled (k : t.Punctual) :
    ∀ id p delay, (id, .scheduled p delay) ∈ (t.go m).watch.activities →
      (t.go m).watch.detector.session.pinger = some p →
      ∃ cause o, ((t.go m).course p).getLast? = some cause ∧ cause.mark = .due o ∧
        cause.session = (t.go m).watch.latest ∧
        cause.time + (o.delay (t.go m).watch.detector.settings).millis =
          (t.go m).since id + delay.millis := by
  obtain ⟨new, pinged, begins, turn⟩ := k.steady.valid.step_turns m
  have noted := entries_eq begins
  intro id p delay under live
  rcases begins.mem under with left | ⟨a, begun, same⟩
  · exact k.go_scheduled_left left live
  obtain ⟨rfl, rfl⟩ := Prod.mk.inj same
  rw [go_settings k.steady.valid, go_since_new]
  obtain ⟨o, marked, rfl, rfl, _⟩ := turn.scheduled begun
  rw [marked] at noted
  rw [course_noted noted (by simp)]
  exact ⟨_, o, List.getLast?_concat, rfl, rfl, rfl⟩

theorem go_awaiting (k : t.Punctual) :
    ∀ x ∈ (t.go m).watch.activities, ∀ p, x.2.run = some p →
      (∀ delay, x.2 ≠ .scheduled p delay) →
      ∃ ping, ((t.go m).course p).getLast? = some ping ∧ ping.mark = .ping := by
  obtain ⟨new, pinged, begins, turn⟩ := k.steady.valid.step_turns m
  have noted := entries_eq begins
  intro x under p run waits
  rcases begins.mem under with left | ⟨a, begun, rfl⟩
  · rw [k.untouched left run]
    exact k.awaiting x (Watch.others_mem left).1 p run waits
  cases turn with
  | quiet new unmarked apart _ =>
    -- It awaits a connection, now that its ping has ended.
    obtain ⟨id, b, _, here, own, unsent⟩ := (apart a begun).ended p run
    rw [unmarked] at noted
    have same : (t.go m).course p = t.course p := by
      rw [go_course, noted]
      simp
    rw [same]
    exact k.awaiting (id, b) (Watch.mem_of_lookup here) p own unsent
  | spent id q request sent o new lets here marked ended idle _ _ =>
    cases run.symm.trans (idle a begun).1
  | opened o marked _ _ _ _ =>
    obtain rfl := Option.some.inj begun
    obtain rfl := Option.some.inj run
    exact absurd rfl (waits _)
  | answered id q request sent lets here marked _ _ _ =>
    obtain rfl := Option.some.inj begun
    obtain rfl := Option.some.inj run
    exact absurd rfl (waits _)
  | resent id q request sent lets here marked _ _ _ =>
    obtain rfl := Option.some.inj begun
    obtain rfl := Option.some.inj run
    rw [marked] at noted
    rw [course_noted noted (by simp)]
    exact ⟨⟨q, (t.watch.step true m).latest, t.now, .ping⟩, by simp, rfl⟩
  | sent id q delay request lets here unmarked _ _ _ =>
    obtain rfl := Option.some.inj begun
    obtain rfl := Option.some.inj run
    rw [unmarked] at noted
    rw [course_noted noted (by simp)]
    exact ⟨⟨q, (t.watch.step true m).latest, t.now, .ping⟩, by simp, rfl⟩

theorem go_fresh (k : t.Punctual) :
    ∀ e ∈ (t.go m).history, e.chain < (t.go m).watch.detector.created := by
  obtain ⟨new, pinged, begins, turn⟩ := k.steady.valid.step_turns m
  have grown := k.steady.valid.created_le_step true m
  intro e he
  rcases List.mem_append.mp he with old | noted
  · exact Nat.lt_of_lt_of_le (k.fresh e old) grown
  · rcases entries_chain begins turn e noted with ⟨new, more⟩ | ⟨id, a, _, here, run⟩
    · rw [new]
      exact Nat.lt_of_lt_of_le (Nat.lt_succ_self _) (Nat.le_of_eq more.symm)
    · have fits := k.steady.valid.fits_of_lookup here
      exact Nat.lt_of_lt_of_le (fits.started run) grown

theorem go (k : t.Punctual) (permitted : t.permits m = true) : (t.go m).Punctual where
  steady := k.steady.go m
  fresh := k.go_fresh
  paced := k.go_paced permitted
  scheduled := k.go_scheduled
  awaiting := k.go_awaiting

end Punctual

theorem run_punctual (settings : FaultDetectionConfig) (clusterName : ClusterName)
    (ticks : List (Tick κ)) : ((create settings clusterName).run ticks).Punctual := by
  refine (create_steady settings clusterName).run_induction Punctual ticks
    (create_punctual settings clusterName) ?_ ?_
  · intro t m _ permitted k
    exact k.go permitted
  · intro t time s allowed k
    exact ⟨s.pass allowed, k.fresh, k.paced, k.scheduled, k.awaiting⟩

/-- The pings that are noted are those that were asked for. -/
theorem run_asked (settings : FaultDetectionConfig) (clusterName : ClusterName)
    (ticks : List (Tick κ)) :
    let t := (create settings clusterName).run ticks
    t.watch.asked.filterMap Effect.pings =
      (t.history.filter (·.mark == .ping)).map (·.chain) := by
  refine (create_steady settings clusterName).run_induction
    (fun t => t.watch.asked.filterMap Effect.pings =
      (t.history.filter (·.mark == .ping)).map (·.chain)) ticks rfl ?_ fun _ _ _ _ same => same
  intro t m s _ same
  obtain ⟨_, effects, _, asked⟩ := Watch.step_outcome s.valid true m
  have pinged := Watch.pingedSince_of_asked asked
  have noted : ((t.entries m).filter (·.mark == .ping)).map (·.chain) =
      effects.filterMap Effect.pings := by
    rw [← pinged, entries]
    cases t.watch.occasion m <;> simp [List.filter_map, Function.comp_def]
  change (t.watch.step true m).asked.filterMap Effect.pings =
    ((t.history ++ t.entries m).filter (·.mark == .ping)).map (·.chain)
  rw [asked, List.filterMap_append, List.filter_append, List.map_append, noted, same]

namespace Punctual

variable {t : Timed κ}

/-- A cause of the live chain that no ping has followed yet is what a ping is scheduled for. -/
theorem pending (k : t.Punctual) {p : PingerId}
    (live : t.watch.detector.session.pinger = some p) {cause : Entry} {o : Occasion}
    (last : (t.course p).getLast? = some cause) (mark : cause.mark = .due o) :
    cause.session = t.watch.latest ∧ ∃ id delay, (id, .scheduled p delay) ∈ t.watch.activities ∧
      cause.time + (o.delay t.watch.detector.settings).millis = t.since id + delay.millis := by
  obtain ⟨id, a, under, run⟩ := k.steady.live_run live
  by_cases waits : ∃ delay, a = .scheduled p delay
  · obtain ⟨delay, rfl⟩ := waits
    obtain ⟨cause', o', last', mark', session, moment⟩ := k.scheduled id p delay under live
    obtain rfl := Option.some.inj (last.symm.trans last')
    obtain rfl := Mark.due.inj (mark.symm.trans mark')
    exact ⟨session, id, delay, under, moment⟩
  · obtain ⟨ping, last', mark'⟩ := k.awaiting (id, a) under p run fun delay same =>
      waits ⟨delay, same⟩
    obtain rfl := Option.some.inj (last.symm.trans last')
    cases mark.symm.trans mark'

/-- A scheduled ping whose moment has come is sent at its turn, if its chain is live. -/
theorem sends (k : t.Punctual) {p : PingerId} (live : t.watch.detector.session.pinger = some p)
    {id : Nat} {delay : Duration} (under : (id, .scheduled p delay) ∈ t.watch.activities)
    (moment : t.since id + delay.millis = t.now) (source : Node)
    (result : Except TransportError Unit) :
    (t.step (.move (.proceed id source result))).course p =
      t.course p ++ [⟨p, t.watch.latest, t.now, .ping⟩] := by
  have here := k.steady.valid.lookup_of_mem under
  have permitted : t.permits (.proceed id source result) = true := by
    simp [permits, Move.lets, here, due, moment]
  obtain ⟨⟨request, begins⟩, same⟩ := k.steady.valid.sends here live source result
  have unmarked : t.watch.occasion (.proceed id source result) = none := by
    simp only [Watch.occasion, here]
  have noted := entries_eq begins
  rw [unmarked] at noted
  have old : p < t.watch.detector.created := k.steady.valid.sound.created p live
  have latest := k.latest_live (.proceed id source result) old (by rw [same]; exact live)
  rw [Timed.step, if_pos permitted, course_noted noted (by simp), latest]
  rfl

end Punctual

/-- Every ping that is sent has one cause, the last thing that was noted of its chain: the start of
the session, the success of the ping before it, which make it due an interval later, or a passing
failure of the ping before it or a new connection, which make it due at once. It is sent in the
session of its cause and at the moment when it is due. So no cause has two pings, and if its chain
is live it has one, or its moment is not over: then the ping is scheduled, and sent at its turn. -/
theorem pings_paced (settings : FaultDetectionConfig) (clusterName : ClusterName)
    (ticks : List (Tick κ)) :
    let t := (create settings clusterName).run ticks
    t.watch.asked.filterMap Effect.pings =
        (t.history.filter (·.mark == .ping)).map (·.chain) ∧
      (∀ p, Paced settings (t.course p)) ∧
      ∀ p before cause after o, t.course p = before ++ cause :: after → cause.mark = .due o →
        t.watch.detector.session.pinger = some p →
        let moment := cause.time + (o.delay settings).millis
        (∃ rest, after = ⟨p, cause.session, moment, .ping⟩ :: rest) ∨
        after = [] ∧ t.now ≤ moment ∧ ∃ id delay,
          (id, .scheduled p delay) ∈ t.watch.activities ∧ t.since id + delay.millis = moment ∧
          (t.now = moment → ∀ source result,
            (t.step (.move (.proceed id source result))).course p =
              t.course p ++ [⟨p, cause.session, moment, .ping⟩]) := by
  intro t
  have k : t.Punctual := run_punctual settings clusterName ticks
  have same : t.watch.detector.settings = settings := run_settings settings clusterName ticks
  refine ⟨run_asked settings clusterName ticks, fun p => same ▸ k.paced p, ?_⟩
  intro p before cause after o split mark live moment
  cases after with
  | cons e rest =>
    left
    have follows := k.paced p (before ++ [cause]) e rest (by simp [split])
    have own : e.chain = p := by
      have noted : e ∈ t.course p := by simp [split]
      simpa using (List.mem_filter.mp noted).2
    rw [List.getLast?_concat] at follows
    unfold Entry.Follows at follows
    obtain ⟨chain, session, time, what⟩ := e
    cases what with
    | ping =>
      obtain ⟨o', mark', rfl, rfl⟩ := follows
      obtain rfl := Mark.due.inj (mark.symm.trans mark')
      exact ⟨rest, by rw [← own, same]⟩
    | due next => cases mark.symm.trans follows.2
  | nil =>
    right
    have last : (t.course p).getLast? = some cause := by
      rw [split, List.getLast?_concat]
    obtain ⟨session, id, delay, under, at'⟩ := k.pending live last mark
    rw [same] at at'
    have unpassed := k.steady.unpassed (id, .scheduled p delay) under _ rfl
    refine ⟨rfl, ?_, id, delay, under, at'.symm, fun now source result => ?_⟩
    · exact Nat.le_trans unpassed (Nat.le_of_eq at'.symm)
    · rw [k.sends live under (at'.symm.trans now.symm), session, now]

/-- A ping fails and is sent again, the next one is due two milliseconds after the answer; meanwhile
a new connection was begun, and with it a chain whose ping is due at once. -/
theorem reconnected_ping_at_once :
    let a : Node := ⟨"a", "1", "http://a"⟩
    let settings : FaultDetectionConfig :=
      { pingIntervalMs := 2, connectOnNetworkDisconnect := true }
    let ticks : List (Tick Unit) :=
      [.move (.restart a "elected"), .pass 3, .pass 2, .move (.proceed 0 a (.ok ())), .pass 5,
        .move (.proceed 1 a (.error (.timeout "a" ⟨0⟩))), .move (.proceed 2 a (.ok ())), .pass 1,
        .move (.handle a), .pass 1, .move (.proceed 3 a (.ok ())), .move (.proceed 4 a (.ok ()))]
    let t := (create settings "c").run ticks
    (t.course 0).map (fun e => (e.time, e.mark)) =
        [(0, .due .started), (2, .ping), (7, .due .failed), (7, .ping), (7, .due .answered),
          (9, .ping)] ∧
      Paced settings (t.course 0) ∧ t.watch.detector.session.pinger = some 1 ∧ t.now = 9 ∧
      ∃ id, ∀ source result, (t.step (.move (.proceed id source result))).course 1 =
        t.course 1 ++ [⟨1, 0, 9, .ping⟩] := by
  intro a settings ticks
  have first : (((create settings "c").run ticks).course 0).map (fun e => (e.time, e.mark)) =
      [(0, .due .started), (2, .ping), (7, .due .failed), (7, .ping), (7, .due .answered),
        (9, .ping)] := by decide
  have second : ((create settings "c").run ticks).course 1 = [⟨1, 0, 9, .due .reconnected⟩] := by
    decide
  have live : ((create settings "c").run ticks).watch.detector.session.pinger = some 1 := by decide
  have now : ((create settings "c").run ticks).now = 9 := by decide
  obtain ⟨_, paced, pings⟩ := pings_paced settings "c" ticks
  generalize (create settings "c").run ticks = t at first second live now paced pings ⊢
  refine ⟨first, paced 0, live, now, ?_⟩
  have atOnce : 9 + (Occasion.reconnected.delay settings).millis = 9 := by decide
  have last := pings 1 [] _ [] .reconnected second rfl live
  dsimp only at last
  rw [atOnce] at last
  rcases last with ⟨rest, sent⟩ | ⟨_, _, id, _, _, _, turn⟩
  · cases sent
  · exact ⟨id, turn now⟩

end Timed

end Vigil
