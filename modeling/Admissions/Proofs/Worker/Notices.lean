import Mathlib.Data.List.Nodup
import Admissions.Proofs.Worker.Lifecycle

namespace Admissions

open Run Service

/-! ### The store's side -/

namespace ApplicationStore

/-- A statement that no live fault matches leaves the store as it was. -/
theorem fire_of_unmatched {s : ApplicationStore} {text : String} (unmatched : (s.fire text).1 = none) :
    s.fire text = (none, s) := by
  unfold fire at unmatched ⊢
  split at unmatched
  · rfl
  · split at unmatched
    · rfl
    · cases unmatched

/-- A statement that every fault misses, or finds run out, is not answered. -/
theorem fire_of_missed {s : ApplicationStore} {text : String}
    (missed : ∀ f ∈ s.faults, f.remaining = 0 ∨ Text.contains text f.pattern = false) :
    s.fire text = (none, s) := by
  have unmatched : s.faults.findIdx? (fun f => f.remaining ≠ 0 && Text.contains text f.pattern) = none := by
    rw [List.findIdx?_eq_none_iff]
    intro f member
    rcases missed f member with spent | absent
    · simp [spent]
    · simp [absent]
  unfold fire
  rw [unmatched]

/-- A first fault that is live and matches answers, and is used once. -/
theorem fire_of_head {s : ApplicationStore} {text : String} {f : InjectedFault} {rest : List InjectedFault}
    (faults : s.faults = f :: rest) (live : 0 < f.remaining) (hits : Text.contains text f.pattern = true) :
    s.fire text = (some f.error, { s with faults := { f with remaining := f.remaining - 1 } :: rest }) := by
  have used : f.remaining ≠ 0 := by omega
  unfold fire
  simp [faults, List.findIdx?_cons, used, hits, live]

end ApplicationStore

namespace StoreRun

variable {s : ApplicationStore} {st : Statement}

theorem run_retried_of_unmatched (unmatched : (s.fire st.sql).1 = none) (tries : Nat) :
    (retried tries st).run.run s = (.ok (), s.note st.kind) := by
  have quiet : (send st.sql st.kind).run.run s = (.ok (), s.note st.kind) := by
    simp only [send, run_get_bind, ApplicationStore.fire_of_unmatched unmatched, run_set]
  cases tries with
  | zero => exact quiet
  | succ tries => simp only [retried, run_tryCatch, attempt, quiet]

section Reads

variable {α : Type} {context : String} {read : Tables → α}

/-- A read behind one statement that answers returns what it reads off the tables,
and leaves them alone. -/
theorem read_ok {v : α} {s s' : ApplicationStore}
    (ok : (within context (outside st >>= fun _ => tables >>= fun t => pure (read t))).run.run s = (.ok v, s')) :
    v = read s.tables ∧ s'.tables = s.tables := by
  have quiet := outside_keeps st s
  simp only [within, run_tryCatch, run_bind] at ok
  rcases out : (outside st).run.run s with ⟨e | _, s₁⟩ <;> simp only [out] at quiet ok
  · cases ok
  · simp only [run_tables, run_pure, outcome_eq_iff, Except.ok.injEq] at ok
    have same : s₁.tables = s.tables := congrArg Prod.fst quiet
    rw [← ok.1, ← ok.2, same]
    exact ⟨rfl, rfl⟩

theorem run_read_of_unmatched (unmatched : (s.fire st.sql).1 = none) :
    (within context (outside st >>= fun _ => tables >>= fun t => pure (read t))).run.run s =
      (.ok (read s.tables), s.note st.kind) := by
  simp only [within, run_tryCatch, run_bind, outside, run_retried_of_unmatched unmatched,
    run_tables, ApplicationStore.note_tables, run_pure]

end Reads

theorem listByStatus_ok {statuses : List String} {s s' : ApplicationStore} {v : List Application}
    (ok : (listByStatus statuses).run.run s = (.ok v, s')) :
    v = s.tables.inStatuses statuses ∧ s'.tables = s.tables :=
  read_ok ok

theorem sentNotifications_ok {status : String} {s s' : ApplicationStore} {v : List (String × String)}
    (ok : (sentNotifications status).run.run s = (.ok v, s')) :
    v = s.tables.sentPairs status ∧ s'.tables = s.tables :=
  read_ok ok

theorem run_listByStatus_of_unmatched (statuses : List String)
    (unmatched : (s.fire Statement.listByStatus.sql).1 = none) :
    (listByStatus statuses).run.run s = (.ok (s.tables.inStatuses statuses), s.note Statement.listByStatus.kind) :=
  run_read_of_unmatched unmatched

theorem run_sentNotifications_of_unmatched (status : String)
    (unmatched : (s.fire Statement.sentNotifications.sql).1 = none) :
    (sentNotifications status).run.run s =
      (.ok (s.tables.sentPairs status), s.note Statement.sentNotifications.kind) :=
  run_read_of_unmatched unmatched

theorem run_recordNotification_of_known (faultless : s.faults = []) {n : NotificationRow}
    (known : ∃ f ∈ s.tables.forms, f.form.id = n.applicationId) :
    (recordNotification n).run.run s =
      (.ok (), { s.note Statement.recordNotification.kind with
        tables := { s.tables with notifications := s.tables.notifications ++ [n] } }) := by
  have found : s.tables.forms.any (·.form.id == n.applicationId) = true := by
    obtain ⟨f, member, same⟩ := known
    exact List.any_eq_true.mpr ⟨f, member, by simp [same]⟩
  simp only [recordNotification, within, run_tryCatch, run_bind, outside, run_retried_of_faultless faultless,
    run_tables, ApplicationStore.note_tables, Tables.recordNotification, found, if_true, run_setTables]

/-- A record that a fault answers with a plain error is lost: the run stops with the
tables as they were. -/
theorem run_recordNotification_of_refused {s₁ : ApplicationStore} {text : String} (n : NotificationRow)
    (fired : s.fire Statement.recordNotification.sql = (some (.message text), s₁)) :
    ((recordNotification n).run.run s).2 = s₁.note "fault" := by
  have failed : (attempt Statement.recordNotification).run.run s = (.error (Fault.plain text), s₁.note "fault") := by
    simp only [attempt, send, run_get_bind, fired, run_set_bind, run_throw, InjectedError.fault]
  simp only [recordNotification, within, run_tryCatch, run_bind, outside, retried, failed, Fault.plain,
    run_throw]

end StoreRun

/-- A row added to the notifications adds its pair to the sent pairs of its status
when it records a message that went out. -/
theorem Tables.sentPairs_record (t : Tables) (n : NotificationRow) (status : String) :
    ({ t with notifications := t.notifications ++ [n] } : Tables).sentPairs status =
      t.sentPairs status ++
        (if n.status == status && n.result == "sent" then [(n.applicationId, n.channel)] else []) := by
  simp only [Tables.sentPairs, List.filter_append, List.map_append, List.filter_cons, List.filter_nil]
  split <;> rfl

namespace Tables

theorem mem_inStatuses {t : Tables} {statuses : List String} {a : Application}
    (member : a ∈ t.inStatuses statuses) : ∃ f ∈ t.forms, f.form = a := by
  unfold inStatuses at member
  obtain ⟨listed, -⟩ := List.mem_filter.mp (List.mem_mergeSort.mp member)
  exact List.mem_map.mp listed

theorem inStatuses_ids_nodup (t : Tables) (statuses : List String) (distinct : (t.forms.map (·.form.id)).Nodup) :
    ((t.inStatuses statuses).map (·.id)).Nodup := by
  unfold inStatuses
  rw [((List.mergeSort_perm _ _).map _).nodup_iff]
  refine List.Nodup.sublist (List.filter_sublist.map _) ?_
  rw [List.map_map]
  exact distinct

end Tables

/-- A text contains a part when the scan over its characters finds it. -/
theorem Text.contains_eq_go (s p : String) : Text.contains s p = Text.contains.go p.toList s.toList := rfl

-- The statement texts are scanned character by character: each literal is read as the
-- list it is made from, which the kernel compares at once, where decoding it would not.
set_option maxRecDepth 20000 in
theorem Statement.recordNotification_hits_insert :
    Text.contains Statement.recordNotification.sql "INSERT INTO notifications" = true := by
  rw [Text.contains_eq_go, show Statement.recordNotification.sql.toList = _ from String.toList_ofList,
    show "INSERT INTO notifications".toList = _ from String.toList_ofList]
  decide +kernel

set_option maxRecDepth 20000 in
theorem Statement.sentNotifications_misses_insert :
    Text.contains Statement.sentNotifications.sql "INSERT INTO notifications" = false := by
  rw [Text.contains_eq_go, show Statement.sentNotifications.sql.toList = _ from String.toList_ofList,
    show "INSERT INTO notifications".toList = _ from String.toList_ofList]
  decide +kernel

set_option maxRecDepth 20000 in
theorem Statement.listByStatus_misses_insert :
    Text.contains Statement.listByStatus.sql "INSERT INTO notifications" = false := by
  have joined : Statement.listByStatus.sql = "SELECT " ++ Statement.formColumns ++
      " FROM applications WHERE status = ANY($1) ORDER BY category, examination_number" := rfl
  rw [Text.contains_eq_go, joined, String.toList_append, String.toList_append,
    show "SELECT ".toList = _ from String.toList_ofList,
    show Statement.formColumns.toList = _ from String.toList_ofList,
    show " FROM applications WHERE status = ANY($1) ORDER BY category, examination_number".toList = _ from
      String.toList_ofList,
    show "INSERT INTO notifications".toList = _ from String.toList_ofList]
  decide +kernel

namespace Handler

/-! ### What a run sends -/

/-- Where a channel reaches a form: its mobile number, in international form, when
text messages are on; its e-mail address when e-mail is on and it has one; `none`
when the run skips the channel. -/
def address (mailFrom textSender : Option String) (channel : String) (form : Application) : Option String :=
  if channel == "sms" then
    if textSender.isSome && Phone.isMobile form.applicant.phoneNumber then
      some (Phone.toE164 form.applicant.phoneNumber)
    else none
  else if mailFrom.isSome && !form.applicant.email.isEmpty then some form.applicant.email
  else none

/-- A message a run sends: the form's id, the channel, and whether the outbox refused it. -/
structure Notice where
  id : String
  channel : String
  refused : Bool
  deriving DecidableEq

def Notice.pair (n : Notice) : String × String := (n.id, n.channel)

def Notice.row (n : Notice) (status id sentAt : String) : NotificationRow :=
  { id, applicationId := n.id, status, channel := n.channel, result := if n.refused then "failed" else "sent",
    sentAt }

/-- The message a run sends a form on a channel: none for a pair already sent, or for
a channel that reaches no address. -/
def notice? (mailFrom textSender : Option String) (refused : List String) (done : List (String × String))
    (form : Application) (channel : String) : Option Notice :=
  if done.contains (form.id, channel) then none
  else (address mailFrom textSender channel form).map fun reached => ⟨form.id, channel, refused.contains reached⟩

/-- The messages a run sends, form by form, the text message first. -/
def notices (mailFrom textSender : Option String) (refused : List String) (done : List (String × String))
    (forms : List Application) : List Notice :=
  forms.flatMap fun form => ["sms", "email"].filterMap (notice? mailFrom textSender refused done form)

/-- How a run's counts move over the messages it sends on some number of channels: one
more sent for each message taken, one more failed for each one refused, and one more
skipped for every other channel. -/
structure NoticeTally.Counts (t t' : NoticeTally) (ns : List Notice) (channels : Nat) : Prop where
  sent : t'.sent = t.sent + ns.countP (!·.refused)
  failed : t'.failed = t.failed + ns.countP (·.refused)
  total : t'.sent + t'.failed + t'.skipped = t.sent + t.failed + t.skipped + channels

/-- The store writes of a run: the record of each message in turn, each under an id
and a time of its own. -/
inductive Records (status : String) : ApplicationStore → List Notice → ApplicationStore → Prop
  | nil (s : ApplicationStore) : Records status s [] s
  | cons {s s' : ApplicationStore} {ns : List Notice} (n : Notice) (id sentAt : String) :
      Records status ((StoreRun.recordNotification (n.row status id sentAt)).run.run s).2 ns s' →
      Records status s (n :: ns) s'

/-- What the messages of a run do to the backends: the store records them, and the
outbox takes one message each and keeps its refusals. -/
structure Trail (status : String) (b : Backends) (ns : List Notice) (b' : Backends) : Prop where
  records : Records status b.store ns b'.store
  refused : b'.outbox.refused = b.outbox.refused
  sends : b'.outbox.messages.length = b.outbox.messages.length + ns.length

namespace NoticeTally.Counts

theorem nil (t : NoticeTally) : t.Counts t [] 0 :=
  ⟨by simp, by simp, rfl⟩

theorem append {t t' t'' : NoticeTally} {ns ms : List Notice} {c d : Nat} (first : t.Counts t' ns c)
    (second : t'.Counts t'' ms d) : t.Counts t'' (ns ++ ms) (c + d) where
  sent := by rw [second.sent, first.sent, List.countP_append]; omega
  failed := by rw [second.failed, first.failed, List.countP_append]; omega
  total := by rw [second.total, first.total]; omega

end NoticeTally.Counts

theorem Records.append {status : String} {s s' s'' : ApplicationStore} {ns ms : List Notice}
    (first : Records status s ns s') (second : Records status s' ms s'') : Records status s (ns ++ ms) s'' := by
  induction first with
  | nil => exact second
  | cons n id sentAt _ ih => exact .cons n id sentAt (ih second)

theorem Records.single {status : String} {s s' : ApplicationStore} {n : Notice} (records : Records status s [n] s') :
    ∃ id sentAt, s' = ((StoreRun.recordNotification (n.row status id sentAt)).run.run s).2 := by
  cases records with
  | cons _ id sentAt rest =>
    cases rest with
    | nil => exact ⟨id, sentAt, rfl⟩

namespace Trail

variable {status : String}

theorem nil (b : Backends) : Trail status b [] b :=
  ⟨.nil _, rfl, rfl⟩

theorem append {b b' b'' : Backends} {ns ms : List Notice} (first : Trail status b ns b')
    (second : Trail status b' ms b'') : Trail status b (ns ++ ms) b'' where
  records := first.records.append second.records
  refused := second.refused.trans first.refused
  sends := by rw [second.sends, first.sends, List.length_append]; omega

end Trail

/-! ### Records that are all kept -/

/-- On a store with no fault waiting, every message of a run is recorded: the pairs
that went out are recorded as sent, no pair recorded before is lost, no fault appears
and the forms stay. -/
theorem Records.faultless {status : String} {s s' : ApplicationStore} {ns : List Notice}
    (records : Records status s ns s') :
    s.faults = [] → (∀ n ∈ ns, ∃ f ∈ s.tables.forms, f.form.id = n.id) →
      s'.faults = [] ∧ s'.tables.forms = s.tables.forms ∧
      (∀ p ∈ s.tables.sentPairs status, p ∈ s'.tables.sentPairs status) ∧
      ∀ n ∈ ns, n.refused = false → n.pair ∈ s'.tables.sentPairs status := by
  induction records with
  | nil s => exact fun faultless _ => ⟨faultless, rfl, fun _ kept => kept, fun _ member => absurd member List.not_mem_nil⟩
  | @cons s s' ns n id sentAt _ ih =>
    intro faultless known
    have ran := StoreRun.run_recordNotification_of_known faultless (n := n.row status id sentAt)
      (known n List.mem_cons_self)
    rw [ran] at ih
    obtain ⟨faultless', forms', grown, recorded⟩ :=
      ih faultless fun m member => known m (List.mem_cons_of_mem _ member)
    refine ⟨faultless', forms', fun p kept => grown p ?_, fun m member taken => ?_⟩
    · rw [Tables.sentPairs_record]
      exact List.mem_append_left _ kept
    · rcases List.mem_cons.mp member with rfl | later
      · -- the message just recorded went out: its row is a sent row of the status
        refine grown _ ?_
        rw [Tables.sentPairs_record]
        simp [Notice.row, Notice.pair, taken]
      · exact recorded m later taken

/-! ### One channel -/

theorem run_deliver (mailFrom textSender : Option String) (channel : String) (form : Application)
    (subject body : String) (b : Backends) :
    ∃ answer o, (deliver mailFrom textSender channel form subject body).run.run b =
        (.ok answer, { b with outbox := o }) ∧
      answer.map Option.isSome = (address mailFrom textSender channel form).map b.outbox.refused.contains ∧
      o.refused = b.outbox.refused ∧ o.messages.length = b.outbox.messages.length + answer.toList.length := by
  unfold deliver address
  simp only [run_get_bind]
  by_cases sms : (channel == "sms") = true
  · simp only [sms, if_true]
    cases textSender with
    | none => exact ⟨none, b.outbox, rfl, rfl, rfl, rfl⟩
    | some sender =>
      by_cases mobile : Phone.isMobile form.applicant.phoneNumber = true
      · simp only [mobile, if_true, Outbox.sendText, run_bind, run_set, run_pure]
        refine ⟨_, _, rfl, ?_, rfl, by simp⟩
        by_cases refused : Phone.toE164 form.applicant.phoneNumber ∈ b.outbox.refused <;> simp [refused]
      · simp only [mobile, Bool.false_eq_true, if_false, Option.isSome_some, Bool.and_false, run_pure]
        exact ⟨none, b.outbox, rfl, rfl, rfl, rfl⟩
  · simp only [sms, Bool.false_eq_true, if_false]
    cases mailFrom with
    | none => exact ⟨none, b.outbox, rfl, rfl, rfl, rfl⟩
    | some sender =>
      by_cases blank : form.applicant.email.isEmpty = true
      · simp only [blank, if_true, Option.isSome_some, Bool.not_true, Bool.and_false, Bool.false_eq_true,
          if_false, run_pure]
        exact ⟨none, b.outbox, rfl, rfl, rfl, rfl⟩
      · simp only [blank, Bool.false_eq_true, if_false, Outbox.sendEmail, run_bind, run_set, run_pure,
          Option.isSome_some, Bool.not_false, Bool.and_true, if_true]
        refine ⟨_, _, rfl, ?_, rfl, by simp⟩
        by_cases refused : form.applicant.email ∈ b.outbox.refused <;> simp [refused]

theorem run_recordNotice (status channel result : String) (form : Application) (b : Backends) :
    (recordNotice status channel result form).run.run b =
      (.ok (), { b with
        ids := b.ids.next.2
        store := ((StoreRun.recordNotification
          { id := b.ids.next.1, applicationId := form.id, status, channel, result,
            sentAt := b.now.toUTC.format }).run.run b.store).2 }) := by
  simp only [recordNotice, run_bind, run_freshId, run_stamp, run_attempt, run_onStore]

namespace NoticeTally.Counts

/-- One channel's step, then the rest of the channels. -/
theorem cons {t t₁ t' : NoticeTally} {x : Option Notice} {ns : List Notice} {n : Nat}
    (step : t.Counts t₁ x.toList 1) (rest : t₁.Counts t' ns n) : t.Counts t' (x.toList ++ ns) (n + 1) := by
  have both := step.append rest
  rwa [Nat.add_comm] at both

theorem skip (t : NoticeTally) : t.Counts { t with skipped := t.skipped + 1 } (none : Option Notice).toList 1 :=
  ⟨by simp, by simp, by simp; omega⟩

theorem taken (t : NoticeTally) (id channel : String) :
    t.Counts { t with sent := t.sent + 1 } (some (⟨id, channel, false⟩ : Notice)).toList 1 :=
  ⟨by simp, by simp, by simp; omega⟩

theorem refused (t : NoticeTally) (id channel error : String) :
    t.Counts { t with failed := t.failed + 1, lastChannel := channel, lastError := error }
      (some (⟨id, channel, true⟩ : Notice)).toList 1 :=
  ⟨by simp, by simp, by simp; omega⟩

end NoticeTally.Counts

theorem Trail.recorded {status : String} (b : Backends) (o : Outbox) (n : Notice) (id sentAt : String)
    (kept : o.refused = b.outbox.refused) (grown : o.messages.length = b.outbox.messages.length + 1) :
    Trail status b (some n).toList { b with
      outbox := o
      ids := b.ids.next.2
      store := ((StoreRun.recordNotification (n.row status id sentAt)).run.run b.store).2 } :=
  ⟨.cons n id sentAt (.nil _), kept, grown⟩

/-- A channel the outbox answered on reached an address: the run's message goes there,
refused exactly when the outbox refused it. -/
theorem notice?_of_answer {mailFrom textSender : Option String} {refused : List String}
    {done : List (String × String)} {form : Application} {channel : String}
    (fresh : ¬done.contains (form.id, channel) = true) {r : Bool}
    (answered : some r = (address mailFrom textSender channel form).map refused.contains) :
    notice? mailFrom textSender refused done form channel = some ⟨form.id, channel, r⟩ := by
  cases addressed : address mailFrom textSender channel form with
  | none => rw [addressed] at answered; cases answered
  | some reached =>
    rw [addressed, Option.map_some, Option.some.injEq] at answered
    rw [notice?, if_neg fresh, addressed, Option.map_some, answered]

/-! ### One form -/

theorem noticeChannels_run (mailFrom textSender : Option String) (status : String)
    (done : List (String × String)) (form : Application) (subject body : String) :
    ∀ (channels : List String) (t : NoticeTally) (b : Backends), ∃ t' b',
      (noticeChannels mailFrom textSender status done form subject body channels t).run.run b = (.ok t', b') ∧
      t.Counts t' (channels.filterMap (notice? mailFrom textSender b.outbox.refused done form)) channels.length ∧
      Trail status b (channels.filterMap (notice? mailFrom textSender b.outbox.refused done form)) b'
  | [], t, b => ⟨t, b, rfl, .nil t, .nil b⟩
  | channel :: rest, t, b => by
    have next := noticeChannels_run mailFrom textSender status done form subject body rest
    rw [noticeChannels]
    by_cases sent : done.contains (form.id, channel) = true
    · -- a pair already sent is skipped, whatever the channel reaches
      have skipped : notice? mailFrom textSender b.outbox.refused done form channel = none := by
        rw [notice?, if_pos sent]
      obtain ⟨t', b', ran, counts, trail⟩ := next { t with skipped := t.skipped + 1 } b
      simp only [sent, if_true, pure_bind]
      refine ⟨t', b', ran, ?_, ?_⟩
      · rw [List.filterMap_cons, skipped]
        exact (NoticeTally.Counts.skip t).cons counts
      · rw [List.filterMap_cons, skipped]
        exact trail
    · obtain ⟨answer, o, delivered, answered, kept, grown⟩ := run_deliver mailFrom textSender channel form subject body b
      simp only [sent, Bool.false_eq_true, if_false]
      rw [run_bind, delivered]
      rcases answer with _ | _ | error
      · -- the channel reaches no address
        have unreached : address mailFrom textSender channel form = none := by
          simpa using answered.symm
        have skipped : notice? mailFrom textSender b.outbox.refused done form channel = none := by
          rw [notice?, if_neg sent, unreached, Option.map_none]
        obtain ⟨t', b', ran, counts, trail⟩ := next { t with skipped := t.skipped + 1 } { b with outbox := o }
        have first : Trail status b [] { b with outbox := o } := ⟨.nil _, kept, by simpa using grown⟩
        dsimp only at counts trail
        rw [kept] at counts trail
        refine ⟨t', b', by simpa using ran, ?_, ?_⟩
        · rw [List.filterMap_cons, skipped]
          exact (NoticeTally.Counts.skip t).cons counts
        · rw [List.filterMap_cons, skipped, ← List.nil_append (List.filterMap _ rest)]
          exact first.append trail
      · -- the message went out: it is recorded as sent
        have notice := notice?_of_answer sent answered
        obtain ⟨t', b', ran, counts, trail⟩ := next { t with sent := t.sent + 1 }
          { b with outbox := o, ids := b.ids.next.2, store := ((StoreRun.recordNotification (Notice.row ⟨form.id, channel, false⟩ status b.ids.next.1 b.now.toUTC.format)).run.run b.store).2 }
        dsimp only at counts trail
        rw [kept] at counts trail
        refine ⟨t', b', ?_, ?_, ?_⟩
        · simp only [run_bind, run_recordNotice, pure_bind]
          exact ran
        · rw [List.filterMap_cons, notice]
          exact (NoticeTally.Counts.taken t form.id channel).cons counts
        · rw [List.filterMap_cons, notice]
          exact (Trail.recorded b o _ _ _ kept (by simpa using grown)).append trail
      · -- the outbox refused the message: it is recorded as failed
        have notice := notice?_of_answer sent answered
        obtain ⟨t', b', ran, counts, trail⟩ :=
          next { t with failed := t.failed + 1, lastChannel := channel, lastError := error }
          { b with outbox := o, ids := b.ids.next.2, store := ((StoreRun.recordNotification (Notice.row ⟨form.id, channel, true⟩ status b.ids.next.1 b.now.toUTC.format)).run.run b.store).2 }
        dsimp only at counts trail
        rw [kept] at counts trail
        refine ⟨t', b', ?_, ?_, ?_⟩
        · simp only [run_bind, run_recordNotice, pure_bind]
          exact ran
        · rw [List.filterMap_cons, notice]
          exact (NoticeTally.Counts.refused t form.id channel error).cons counts
        · rw [List.filterMap_cons, notice]
          exact (Trail.recorded b o _ _ _ kept (by simpa using grown)).append trail

theorem notices_cons (mailFrom textSender : Option String) (refused : List String) (done : List (String × String))
    (form : Application) (rest : List Application) :
    notices mailFrom textSender refused done (form :: rest) =
      ["sms", "email"].filterMap (notice? mailFrom textSender refused done form) ++
        notices mailFrom textSender refused done rest := by
  simp only [notices, List.flatMap_cons]

/-! ### The plan's pairs -/

section Plan

variable {mailFrom textSender : Option String} {refused : List String} {done : List (String × String)}

/-- A message is for the form and channel it was made for, on a pair not sent yet. -/
theorem notice?_some {form : Application} {channel : String} {n : Notice}
    (made : notice? mailFrom textSender refused done form channel = some n) :
    n.id = form.id ∧ n.channel = channel ∧ n.pair ∉ done := by
  unfold notice? at made
  split at made
  · cases made
  · rename_i fresh
    obtain ⟨reached, -, rfl⟩ := Option.map_eq_some_iff.mp made
    exact ⟨rfl, rfl, by simpa [Notice.pair] using fresh⟩

theorem mem_notices {forms : List Application} {n : Notice}
    (member : n ∈ notices mailFrom textSender refused done forms) :
    ∃ form ∈ forms, n.id = form.id ∧ n.pair ∉ done := by
  obtain ⟨form, listed, chosen⟩ := List.mem_flatMap.mp member
  obtain ⟨channel, -, made⟩ := List.mem_filterMap.mp chosen
  obtain ⟨sameId, -, fresh⟩ := notice?_some made
  exact ⟨form, listed, sameId, fresh⟩

/-- Over forms of distinct ids a run plans each pair at most once: a form's two
channels differ, and two forms' ids do. -/
theorem notices_pairs_nodup :
    ∀ {forms : List Application}, (forms.map (·.id)).Nodup →
      ((notices mailFrom textSender refused done forms).map Notice.pair).Nodup
  | [], _ => by simp [notices]
  | form :: rest, distinct => by
    obtain ⟨fresh, distinct'⟩ := List.nodup_cons.mp distinct
    rw [notices_cons, List.map_append, List.nodup_append]
    refine ⟨?_, notices_pairs_nodup distinct', ?_⟩
    · -- one form's messages are on different channels
      rw [List.map_filterMap]
      refine List.Nodup.filterMap (fun c c' p here there => ?_) (by decide)
      obtain ⟨n, made, rfl⟩ := Option.map_eq_some_iff.mp here
      obtain ⟨n', made', same⟩ := Option.map_eq_some_iff.mp there
      rw [← (notice?_some made).2.1, ← (notice?_some made').2.1]
      exact (congrArg Prod.snd same).symm
    · rintro p mine q theirs rfl
      obtain ⟨n, chosen, rfl⟩ := List.mem_map.mp mine
      obtain ⟨n', later, same⟩ := List.mem_map.mp theirs
      obtain ⟨channel, -, made⟩ := List.mem_filterMap.mp chosen
      obtain ⟨form', listed, sameId', -⟩ := mem_notices later
      have ids : form.id = form'.id := by
        rw [← (notice?_some made).1, ← sameId']
        exact (congrArg Prod.fst same).symm
      refine fresh ?_
      show form.id ∈ rest.map (·.id)
      rw [ids]
      exact List.mem_map_of_mem listed

end Plan

/-! ### Every form -/

/-- Going through the forms never fails: the counts move by the messages of the plan
over two channels a form, and the backends as those messages say. -/
theorem noticeForms_run (schoolName : String) (mailFrom textSender : Option String) (status : String)
    (template : Template) (done : List (String × String)) :
    ∀ (forms : List Application) (t : NoticeTally) (b : Backends), ∃ t' b',
      (noticeForms schoolName mailFrom textSender status template done forms t).run.run b = (.ok t', b') ∧
      t.Counts t' (notices mailFrom textSender b.outbox.refused done forms) (2 * forms.length) ∧
      Trail status b (notices mailFrom textSender b.outbox.refused done forms) b'
  | [], t, b => ⟨t, b, rfl, .nil t, .nil b⟩
  | form :: rest, t, b => by
    obtain ⟨t₁, b₁, ran, counts, trail⟩ :=
      noticeChannels_run mailFrom textSender status done form _ _ ["sms", "email"] t b
    obtain ⟨t', b', ran', counts', trail'⟩ :=
      noticeForms_run schoolName mailFrom textSender status template done rest t₁ b₁
    rw [trail.refused] at counts' trail'
    refine ⟨t', b', ?_, ?_, ?_⟩
    · rw [noticeForms, run_bind, ran]
      exact ran'
    · have both := counts.append counts'
      rw [notices_cons, List.length_cons]
      rwa [show ["sms", "email"].length + 2 * rest.length = 2 * (rest.length + 1) by simp; omega] at both
    · rw [notices_cons]
      exact trail.append trail'

/-! ### A whole run -/

theorem run_query {α : Type} (operation : String) (r : StoreRun α) (b : Backends) :
    (query operation r).run.run b = match r.run.run b.store with
      | (.ok v, s) => (.ok v, { b with store := s })
      | (.error e, s) => (.error (Fault.ofFailure (e.ofQuery operation)), { b with store := s }) := by
  simp only [query, run_bind, run_outcome, run_onStore]
  rcases r.run.run b.store with ⟨_ | _, s⟩ <;> rfl

/-- A run that gets past its reads sends the messages of the plan made from what it
read, and answers from its counts. -/
theorem notify_run_of_reads (schoolName : String) (mailFrom textSender : Option String) (status : String)
    (b : Backends) (checked : (JobInput.notify status).precheck .sendResultNotification {} Instant.zero = none)
    {recipients : List Application} {done : List (String × String)} {s₁ s₂ : ApplicationStore}
    (listed : (StoreRun.listByStatus [status]).run.run b.store = (.ok recipients, s₁))
    (read : (StoreRun.sentNotifications status).run.run s₁ = (.ok done, s₂)) :
    ∃ t b', ({} : NoticeTally).Counts t (notices mailFrom textSender b.outbox.refused done recipients)
        (2 * recipients.length) ∧
      Trail status { b with store := s₂ } (notices mailFrom textSender b.outbox.refused done recipients) b' ∧
      (notify schoolName mailFrom textSender status).run.run b =
        (if t.sent = 0 ∧ t.failed > 0 then
          .error (Fault.ofFailure (Failure.notificationSendFailed t.lastChannel t.lastError))
        else .ok (.obj [("notifiedStatus", .str status), ("recipients", .ofNat recipients.length),
          ("sent", .ofNat t.sent), ("failed", .ofNat t.failed), ("skipped", .ofNat t.skipped)]), b') := by
  obtain ⟨t, b', ran, counts, trail⟩ := noticeForms_run schoolName mailFrom textSender status
    ((Template.forCode status).getD ⟨"", ""⟩) done recipients {} { b with store := s₂ }
  refine ⟨t, b', counts, trail, ?_⟩
  -- the check is read off first: the kernel would otherwise evaluate the schema behind it
  rw [notify, checked]
  simp only [failWith, pure_bind, run_bind, run_query, listed, read]
  rw [ran]
  dsimp only
  -- the counts decide the answer: a failure when nothing went out and something was refused
  by_cases nothing : t.sent = 0 ∧ t.failed > 0
  · have failing : decide (t.sent = 0 ∧ t.failed > 0) = true := decide_eq_true nothing
    simp only [failIf, failing, if_true, fail, run_throw, if_pos nothing]
  · have passing : decide (t.sent = 0 ∧ t.failed > 0) = false := decide_eq_false nothing
    simp only [failIf, passing, Bool.false_eq_true, if_false, run_pure, if_neg nothing]

/-- The messages a run sends from these backends: over the forms in the status,
skipping the pairs recorded as sent for it. -/
def plan (mailFrom textSender : Option String) (status : String) (b : Backends) : List Notice :=
  notices mailFrom textSender b.outbox.refused (b.store.tables.sentPairs status) (b.store.tables.inStatuses [status])

/-- A run whose two reads no fault answers sends the plan made from the store as it
found it. -/
theorem notify_run_of_missed (schoolName : String) (mailFrom textSender : Option String) (status : String)
    {b : Backends} (checked : (JobInput.notify status).precheck .sendResultNotification {} Instant.zero = none)
    (missed : ∀ f ∈ b.store.faults, f.remaining = 0 ∨
      Text.contains Statement.listByStatus.sql f.pattern = false ∧
        Text.contains Statement.sentNotifications.sql f.pattern = false) :
    ∃ t b', ({} : NoticeTally).Counts t (plan mailFrom textSender status b)
        (2 * (b.store.tables.inStatuses [status]).length) ∧
      Trail status { b with store := (b.store.note Statement.listByStatus.kind).note Statement.sentNotifications.kind }
        (plan mailFrom textSender status b) b' ∧
      (notify schoolName mailFrom textSender status).run.run b =
        (if t.sent = 0 ∧ t.failed > 0 then
          .error (Fault.ofFailure (Failure.notificationSendFailed t.lastChannel t.lastError))
        else .ok (.obj [("notifiedStatus", .str status),
          ("recipients", .ofNat (b.store.tables.inStatuses [status]).length),
          ("sent", .ofNat t.sent), ("failed", .ofNat t.failed), ("skipped", .ofNat t.skipped)]), b') := by
  have listed := StoreRun.run_listByStatus_of_unmatched [status] (by
    rw [ApplicationStore.fire_of_missed fun f member => (missed f member).imp_right And.left])
  have read := StoreRun.run_sentNotifications_of_unmatched (s := b.store.note Statement.listByStatus.kind) status (by
    rw [ApplicationStore.fire_of_missed (s := b.store.note _) fun f member => (missed f member).imp_right And.right])
  exact notify_run_of_reads schoolName mailFrom textSender status b checked listed read

/-- A run of the notification handler either stops before it sends anything, or it
sends the messages of the plan made from the store as it found it and answers from
its counts: these add up to two channels a form, and the run fails with
NOTIFICATION_SEND_FAILED exactly when nothing went out and some message was refused. -/
theorem notify_run (schoolName : String) (mailFrom textSender : Option String) (status : String) (b : Backends) :
    (∃ e b', (notify schoolName mailFrom textSender status).run.run b = (.error e, b') ∧ b'.outbox = b.outbox) ∨
    ∃ t s b', s.tables = b.store.tables ∧
      ({} : NoticeTally).Counts t (plan mailFrom textSender status b) (2 * (b.store.tables.inStatuses [status]).length) ∧
      Trail status { b with store := s } (plan mailFrom textSender status b) b' ∧
      (notify schoolName mailFrom textSender status).run.run b =
        (if t.sent = 0 ∧ t.failed > 0 then
          .error (Fault.ofFailure (Failure.notificationSendFailed t.lastChannel t.lastError))
        else .ok (.obj [("notifiedStatus", .str status),
          ("recipients", .ofNat (b.store.tables.inStatuses [status]).length),
          ("sent", .ofNat t.sent), ("failed", .ofNat t.failed), ("skipped", .ofNat t.skipped)]), b') := by
  cases checked : (JobInput.notify status).precheck .sendResultNotification {} Instant.zero with
  | some f =>
    -- the variables are refused before anything is read
    left
    exact ⟨Fault.ofFailure f, b, by rw [notify, checked]; simp only [failWith, fail, run_bind, run_throw], rfl⟩
  | none =>
    rcases listed : (StoreRun.listByStatus [status]).run.run b.store with ⟨e | recipients, s₁⟩
    · left
      exact ⟨Fault.ofFailure (e.ofQuery "list recipients"), { b with store := s₁ }, by
        rw [notify, checked]; simp only [failWith, pure_bind, run_bind, run_query, listed], rfl⟩
    · obtain ⟨found, same₁⟩ := StoreRun.listByStatus_ok listed
      rcases read : (StoreRun.sentNotifications status).run.run s₁ with ⟨e | done, s₂⟩
      · left
        exact ⟨Fault.ofFailure (e.ofQuery "list sent notifications"), { b with store := s₂ }, by
          rw [notify, checked]; simp only [failWith, pure_bind, run_bind, run_query, listed, read], rfl⟩
      · obtain ⟨recorded, same₂⟩ := StoreRun.sentNotifications_ok read
        right
        obtain ⟨t, b', counts, trail, ran⟩ :=
          notify_run_of_reads schoolName mailFrom textSender status b checked listed read
        rw [found, recorded, same₁] at counts trail
        rw [found] at ran
        exact ⟨t, s₂, b', same₂.trans same₁, counts, trail, ran⟩

/-! ### Runs one after another -/

/-- The pairs a run from these backends reaches with a message the outbox takes: those
of its plan, unless its variables are refused. -/
def delivered (mailFrom textSender : Option String) (status : String) (b : Backends) : List (String × String) :=
  if (JobInput.notify status).precheck .sendResultNotification {} Instant.zero = none then
    ((plan mailFrom textSender status b).filter (!·.refused)).map Notice.pair
  else []

def refusing (b : Backends) (recipients : List String) : Backends :=
  { b with outbox := { b.outbox with refused := recipients } }

theorem refusing_self {b : Backends} {recipients : List String} (same : b.outbox.refused = recipients) :
    refusing b recipients = b := by
  rw [← same]
  rfl

/-- The pairs reached by runs one after another, from these backends on, the senders
refusing in each run the recipients its list names: what goes out may change from one
run to the next. -/
def deliveredOver (schoolName : String) (mailFrom textSender : Option String) (status : String) :
    List (List String) → Backends → List (String × String)
  | [], _ => []
  | refused :: later, b => delivered mailFrom textSender status (refusing b refused) ++
      deliveredOver schoolName mailFrom textSender status later
        ((notify schoolName mailFrom textSender status).run.run (refusing b refused)).2

/-- What a run does to the records of a status when the store takes all of them: no
fault appears, the forms stay, every pair recorded as sent stays so, and the pairs the
run reached, each once, were not recorded before and are now. -/
structure KeepsRecords (status : String) (b b' : Backends) (reached : List (String × String)) : Prop where
  faultless : b'.store.faults = []
  forms : b'.store.tables.forms = b.store.tables.forms
  kept : ∀ p ∈ b.store.tables.sentPairs status, p ∈ b'.store.tables.sentPairs status
  recorded : ∀ p ∈ reached, p ∈ b'.store.tables.sentPairs status
  fresh : ∀ p ∈ reached, p ∉ b.store.tables.sentPairs status
  distinct : reached.Nodup

theorem notify_keepsRecords (schoolName : String) (mailFrom textSender : Option String) (status : String)
    {b : Backends} (faultless : b.store.faults = []) (distinct : (b.store.tables.forms.map (·.form.id)).Nodup) :
    KeepsRecords status b ((notify schoolName mailFrom textSender status).run.run b).2
      (delivered mailFrom textSender status b) := by
  unfold delivered
  split
  · next checked =>
    -- with no fault waiting both reads go through and every record is written
    obtain ⟨t, b', -, trail, ran⟩ := notify_run_of_missed schoolName mailFrom textSender status checked
      (fun f member => by rw [faultless] at member; cases member)
    have known : ∀ n ∈ plan mailFrom textSender status b, ∃ f ∈ b.store.tables.forms, f.form.id = n.id := by
      intro n member
      obtain ⟨form, listed, sameId, -⟩ := mem_notices member
      obtain ⟨f, stored, rfl⟩ := Tables.mem_inStatuses listed
      exact ⟨f, stored, sameId.symm⟩
    obtain ⟨faultless', forms', kept, recorded⟩ := trail.records.faultless faultless known
    rw [ran]
    refine ⟨faultless', forms', kept, fun p member => ?_, fun p member => ?_, ?_⟩
    · obtain ⟨n, chosen, rfl⟩ := List.mem_map.mp member
      obtain ⟨planned, taken⟩ := List.mem_filter.mp chosen
      exact recorded n planned (by simpa using taken)
    · obtain ⟨n, chosen, rfl⟩ := List.mem_map.mp member
      obtain ⟨-, -, -, fresh⟩ := mem_notices (List.mem_filter.mp chosen).1
      exact fresh
    · exact (notices_pairs_nodup (b.store.tables.inStatuses_ids_nodup [status] distinct)).sublist
        (List.filter_sublist.map _)
  · next refused =>
    -- refused variables stop the run before it reads anything
    have stopped : ((notify schoolName mailFrom textSender status).run.run b).2 = b := by
      cases checked : (JobInput.notify status).precheck .sendResultNotification {} Instant.zero with
      | none => exact absurd checked refused
      | some f => rw [notify, checked]; simp only [failWith, fail, run_bind, run_throw]
    rw [stopped]
    exact ⟨faultless, rfl, fun _ kept => kept, fun _ member => absurd member List.not_mem_nil,
      fun _ member => absurd member List.not_mem_nil, List.nodup_nil⟩

/-- While the store takes every record, each pair of form and channel is reached at
most once: over any number of runs one after another, whatever the senders refuse in
each, from a store with no fault waiting and forms of distinct ids, the pairs reached
are distinct and none of them was recorded as sent before the first run. -/
theorem deliveredOver_nodup (schoolName : String) (mailFrom textSender : Option String) (status : String) :
    ∀ (refusals : List (List String)) (b : Backends), b.store.faults = [] →
      (b.store.tables.forms.map (·.form.id)).Nodup →
      (deliveredOver schoolName mailFrom textSender status refusals b).Nodup ∧
      ∀ p ∈ deliveredOver schoolName mailFrom textSender status refusals b, p ∉ b.store.tables.sentPairs status
  | [], _, _, _ => ⟨List.nodup_nil, fun _ member => absurd member List.not_mem_nil⟩
  | refused :: refusals, b, faultless, distinct => by
    -- the senders' refusals are in the outbox; the records the run reads are in the store
    have step := notify_keepsRecords schoolName mailFrom textSender status (b := refusing b refused)
      faultless distinct
    obtain ⟨later, laterFresh⟩ := deliveredOver_nodup schoolName mailFrom textSender status refusals _
      step.faultless (by rw [step.forms]; exact distinct)
    rw [deliveredOver]
    refine ⟨List.nodup_append.mpr ⟨step.distinct, later, ?_⟩, fun p member => ?_⟩
    · rintro p now q afterwards rfl
      exact laterFresh p afterwards (step.recorded p now)
    · rcases List.mem_append.mp member with now | afterwards
      · exact step.fresh p now
      · exact fun before => laterFresh p afterwards (step.kept p before)

/-! ### Counted runs, each pair once while recorded -/

/-- Every run of the notification handler either stops before it sends anything, or
its counts add up to two channels a form and it fails with NOTIFICATION_SEND_FAILED
exactly when nothing went out and some message was refused; and while the store takes
every record, no pair of form and channel is reached twice over any number of runs. -/
theorem notices_counted_and_sent_once_while_recorded (schoolName : String) (mailFrom textSender : Option String)
    (status : String) :
    (∀ b : Backends,
      (∃ e b', (notify schoolName mailFrom textSender status).run.run b = (.error e, b') ∧ b'.outbox = b.outbox) ∨
      ∃ t s b', s.tables = b.store.tables ∧
        ({} : NoticeTally).Counts t (plan mailFrom textSender status b)
          (2 * (b.store.tables.inStatuses [status]).length) ∧
        Trail status { b with store := s } (plan mailFrom textSender status b) b' ∧
        (notify schoolName mailFrom textSender status).run.run b =
          (if t.sent = 0 ∧ t.failed > 0 then
            .error (Fault.ofFailure (Failure.notificationSendFailed t.lastChannel t.lastError))
          else .ok (.obj [("notifiedStatus", .str status),
            ("recipients", .ofNat (b.store.tables.inStatuses [status]).length),
            ("sent", .ofNat t.sent), ("failed", .ofNat t.failed), ("skipped", .ofNat t.skipped)]), b')) ∧
    ∀ (refusals : List (List String)) (b : Backends), b.store.faults = [] →
      (b.store.tables.forms.map (·.form.id)).Nodup →
      (deliveredOver schoolName mailFrom textSender status refusals b).Nodup ∧
      ∀ p ∈ deliveredOver schoolName mailFrom textSender status refusals b, p ∉ b.store.tables.sentPairs status :=
  ⟨notify_run schoolName mailFrom textSender status, deliveredOver_nodup schoolName mailFrom textSender status⟩

/-! ### One passer -/

/-- A passer with a mobile number and no e-mail address. -/
def passer : StoredForm where
  form :=
    { id := "a"
      category := "REGULAR"
      status := "SECOND_PASSED"
      applicant := { name := "seed1", phoneNumber := "010-1111-0001" } }

/-- The backends holding only that passer. -/
def recordedPasser : Backends where
  store := { tables := { forms := [passer] } }

/-- Three runs over the passer, with text messages on and nothing waiting to fail, the
first with the passer's number refused and the others with nothing refused, reach each
pair at most once. -/
theorem recorded_passer_reached_once :
    (deliveredOver "school" none (some "") "SECOND_PASSED" [["+821011110001"], [], []] recordedPasser).Nodup :=
  ((notices_counted_and_sent_once_while_recorded "school" none (some "") "SECOND_PASSED").2
    [["+821011110001"], [], []] recordedPasser rfl (List.nodup_singleton _)).1

/-- The passer again, with the next insert of a notification failing. -/
def lostRecord : Backends where
  store :=
    { tables := { forms := [passer] }
      faults := [{ pattern := "INSERT INTO notifications", error := .message "insert failed" }] }

/-- The status of the final passers is a valid input of the notification handler. -/
theorem secondPassed_checked :
    (JobInput.notify "SECOND_PASSED").precheck .sendResultNotification {} Instant.zero = none := by
  decide +kernel

def passerText : Notice := ⟨"a", "sms", false⟩

/-- The answer of a run that texted one passer and skipped the e-mail. -/
def sentOnce : Json :=
  .obj [("notifiedStatus", .str "SECOND_PASSED"), ("recipients", .ofNat 1), ("sent", .ofNat 1),
    ("failed", .ofNat 0), ("skipped", .ofNat 1)]

section LostRecord

variable {b : Backends} (tables : b.store.tables = lostRecord.store.tables)

include tables in
theorem inStatuses_passer : b.store.tables.inStatuses ["SECOND_PASSED"] = [passer.form] := by
  rw [tables]
  simp [Tables.inStatuses, lostRecord, passer]

include tables in
/-- With text messages on and e-mail off, and nothing recorded, a run plans one text
message to the passer. -/
theorem plan_passer (unrefused : b.outbox.refused = []) :
    plan none (some "") "SECOND_PASSED" b = [passerText] := by
  rw [plan, inStatuses_passer tables, tables, unrefused]
  decide +kernel

include tables in
/-- Such a run, when no fault answers its reads, texts the passer and answers with
one message sent and one skipped. -/
theorem notify_texts_passer (unrefused : b.outbox.refused = [])
    (missed : ∀ f ∈ b.store.faults, f.remaining = 0 ∨
      Text.contains Statement.listByStatus.sql f.pattern = false ∧
        Text.contains Statement.sentNotifications.sql f.pattern = false) :
    ∃ b', (notify "school" none (some "") "SECOND_PASSED").run.run b = (.ok sentOnce, b') ∧
      Trail "SECOND_PASSED"
        { b with store := (b.store.note Statement.listByStatus.kind).note Statement.sentNotifications.kind }
        [passerText] b' := by
  obtain ⟨t, b', counts, trail, ran⟩ :=
    notify_run_of_missed "school" none (some "") "SECOND_PASSED" secondPassed_checked missed
  rw [plan_passer tables unrefused, inStatuses_passer tables] at counts
  rw [plan_passer tables unrefused] at trail
  have sent : t.sent = 1 := by rw [counts.sent]; rfl
  have failed : t.failed = 0 := by rw [counts.failed]; rfl
  have skipped : t.skipped = 1 := by
    have total := counts.total
    simp only [List.length_singleton] at total
    change t.sent + t.failed + t.skipped = 0 + 0 + 0 + 2 * 1 at total
    omega
  refine ⟨b', ?_, trail⟩
  rw [ran, inStatuses_passer tables, sent, failed, skipped]
  rfl

include tables in
theorem delivered_passer (unrefused : b.outbox.refused = []) :
    delivered none (some "") "SECOND_PASSED" b = [("a", "sms")] := by
  rw [delivered, if_pos secondPassed_checked, plan_passer tables unrefused]
  rfl

end LostRecord

/-- A record lost after its message went out lets the next run send that message
again. With text messages on and the first insert of a notification failing, the
first run over the passer texts them and records nothing, the second run texts them
once more, and the outbox holds two messages: the pair of the passer and text
messages is reached twice in two runs. -/
theorem lost_record_sends_twice :
    ((notify "school" none (some "") "SECOND_PASSED").run.run lostRecord).1 = .ok sentOnce ∧
      ((notify "school" none (some "") "SECOND_PASSED").run.run lostRecord).2.store.tables.notifications = [] ∧
      ((notify "school" none (some "") "SECOND_PASSED").run.run
        ((notify "school" none (some "") "SECOND_PASSED").run.run lostRecord).2).1 = .ok sentOnce ∧
      ((notify "school" none (some "") "SECOND_PASSED").run.run
        ((notify "school" none (some "") "SECOND_PASSED").run.run lostRecord).2).2.outbox.messages.length = 2 ∧
      deliveredOver "school" none (some "") "SECOND_PASSED" [[], []] lostRecord = [("a", "sms"), ("a", "sms")] := by
  -- the first run: the fault misses both reads and answers the insert
  obtain ⟨b₁, first, trail₁⟩ := notify_texts_passer (b := lostRecord) rfl rfl (by
    intro f member
    simp only [lostRecord, List.mem_singleton] at member
    subst member
    exact .inr ⟨Statement.listByStatus_misses_insert, Statement.sentNotifications_misses_insert⟩)
  obtain ⟨id, sentAt, stored⟩ := trail₁.records.single
  have fired := ApplicationStore.fire_of_head (s := (lostRecord.store.note Statement.listByStatus.kind).note
    Statement.sentNotifications.kind) rfl (by decide) Statement.recordNotification_hits_insert
  rw [StoreRun.run_recordNotification_of_refused _ fired] at stored
  have tables₁ : b₁.store.tables = lostRecord.store.tables := by rw [stored]; rfl
  -- the second run: the fault has run out, and nothing was recorded
  obtain ⟨b₂, second, trail₂⟩ := notify_texts_passer tables₁ trail₁.refused (by
    intro f member
    rw [stored] at member
    simp only [ApplicationStore.note, List.mem_singleton] at member
    subst member
    exact .inl (by decide))
  refine ⟨by rw [first], by rw [first]; exact congrArg (·.notifications) tables₁, by rw [first, second],
    by rw [first, second]; simp only [trail₂.sends, trail₁.sends]; rfl, ?_⟩
  rw [deliveredOver, deliveredOver, deliveredOver, @refusing_self lostRecord [] rfl, first,
    @refusing_self b₁ [] trail₁.refused, delivered_passer rfl rfl, delivered_passer tables₁ trail₁.refused]
  rfl

end Handler

end Admissions
