import Mathlib.Data.List.Forall2
import Admissions.Proofs.Worker.Lifecycle

namespace Admissions

open Run

/-- The stored forms and a roster's rows are the same forms in the same order, with the
same ids, categories and examination numbers. -/
def NumbersAgree (forms : List StoredForm) (rows : List Application) : Prop :=
  List.Forall₂ (fun s a => s.form.id = a.id ∧ s.form.category = a.category ∧
    s.form.examinationNumber = a.examinationNumber) forms rows

namespace NumbersAgree

variable {forms : List StoredForm} {rows : List Application}

theorem ids (agree : NumbersAgree forms rows) : forms.map (·.form.id) = rows.map (·.id) := by
  induction agree with
  | nil => rfl
  | cons same _ ih => simp [same.1, ih]

theorem append {s : StoredForm} {a : Application} (agree : NumbersAgree forms rows)
    (same : s.form.id = a.id ∧ s.form.category = a.category ∧ s.form.examinationNumber = a.examinationNumber) :
    NumbersAgree (forms ++ [s]) (rows ++ [a]) :=
  List.rel_append agree (List.Forall₂.cons same .nil)

/-- The highest number of a category counted over the store from any floor at least 0
is the one counted over the roster: a form without a number counts as 0 there. -/
theorem foldl_maxNumber (agree : NumbersAgree forms rows) (category : String) {floor : Int}
    (nonneg : 0 ≤ floor) :
    forms.foldl (fun m s =>
      if s.form.category == category then
        match s.form.examinationNumber with
        | some n => max m n
        | none => m
      else m) floor =
    (rows.filter (·.category == category)).foldl (fun m a => max m a.examNo) floor := by
  induction agree generalizing floor with
  | nil => rfl
  | @cons s a forms rows same _ ih =>
    obtain ⟨-, sameCategory, sameNumber⟩ := same
    rw [List.foldl_cons, List.filter_cons, sameCategory, sameNumber]
    cases hit : a.category == category with
    | true =>
      simp only [if_true, List.foldl_cons]
      cases numbered : a.examinationNumber with
      | none =>
        rw [ih nonneg]
        simp [Application.examNo, numbered, Int.max_eq_left nonneg]
      | some n =>
        rw [ih (Int.le_trans nonneg (Int.le_max_left floor n))]
        simp [Application.examNo, numbered]
    | false =>
      simp only [Bool.false_eq_true, if_false]
      exact ih nonneg

end NumbersAgree

theorem Tables.maxNumber_eq_highestNumber {t : Tables} {r : Roster} (agree : NumbersAgree t.forms r.rows)
    (category : String) : t.maxNumber category = r.highestNumber category :=
  agree.foldl_maxNumber category (Int.le_refl 0)

theorem Tables.insert_ok {t t' : Tables} {a : Application} (inserted : t.insert a = .ok t') :
    t.clash? a = none ∧ t'.forms = t.forms ++ [{ form := { a with score := a.score.stored } }] := by
  unfold Tables.insert at inserted
  split at inserted
  · cases inserted
  · rename_i free
    cases inserted
    exact ⟨free, rfl⟩

/-- A form that breaks no key has an id no stored form has. -/
theorem Tables.id_fresh_of_clash {t : Tables} {a : Application} (free : t.clash? a = none) :
    a.id ∉ t.forms.map (·.form.id) := by
  intro taken
  obtain ⟨s, stored, same⟩ := List.mem_map.mp taken
  have idFree := List.find?_eq_none.mp free FormKey.id (by simp)
  simp only [List.any_eq_true, not_exists, not_and, Bool.not_eq_true] at idFree
  have clash := idFree s stored
  simp [FormKey.clashes, same] at clash

namespace StoreRun

theorem maxExaminationNumber_ok {category : String} {s s' : ApplicationStore} {v : Int}
    (ok : (maxExaminationNumber category).run.run s = (.ok v, s')) :
    v = s.tables.maxNumber category ∧ s'.tables = s.tables := by
  have quiet := attempt_keeps .maxExaminationNumber s
  simp only [maxExaminationNumber, within, run_tryCatch, run_bind, run_tables] at ok
  rcases out : (attempt .maxExaminationNumber).run.run s with ⟨e | _, s₁⟩ <;> simp only [out] at ok quiet
  · cases ok
  · simp only [run_pure] at ok
    cases ok
    have sameTables := congrArg Prod.fst quiet
    simp only [ApplicationStore.guarded] at sameTables
    exact ⟨by rw [sameTables], sameTables⟩

theorem lockCategory_ok {category : String} {s s' : ApplicationStore} {v : Unit}
    (ok : (lockCategory category).run.run s = (.ok v, s')) : s'.tables = s.tables := by
  have quiet := lockCategory_keeps category s
  rw [ok] at quiet
  exact congrArg Prod.fst quiet

theorem insert_ok {a : Application} {s s' : ApplicationStore} {v : Unit}
    (ok : (insert a).run.run s = (.ok v, s')) : s.tables.insert a = .ok s'.tables := by
  have quiet := (attempt_keeps .insertForm).within "insert application" s
  simp only [insert, run_bind, run_tables] at ok
  rcases out : (within "insert application" (attempt .insertForm)).run.run s with ⟨e | _, s₁⟩ <;>
    simp only [out] at ok quiet
  · simp at ok
  · have sameTables := congrArg Prod.fst quiet
    simp only [ApplicationStore.guarded] at sameTables
    rw [← sameTables]
    cases inserted : s₁.tables.insert a with
    | error k =>
      simp only [inserted] at ok
      cases ok
    | ok t =>
      simp only [inserted, run_setTables] at ok
      cases ok
      rfl

end StoreRun

namespace Handler

/-- A form stored by the numbering step got the number its category's highest number
leads to, and was added to the tables without breaking a key. -/
theorem storeForm_ok {bases : List (String × Int)} {form f : Application} {s s' : ApplicationStore}
    (stored : (storeForm bases form).run.run s = (.ok f, s')) :
    ∃ n, ExamNumber.assign bases form (s.tables.maxNumber form.category) = .ok n ∧
      f = { form with examinationNumber := some n } ∧ s.tables.insert f = .ok s'.tables := by
  obtain ⟨_, s₁, locked, afterLock⟩ := run_bind_ok stored
  obtain ⟨current, s₂, counted, afterCount⟩ := run_bind_ok afterLock
  obtain ⟨n, s₃, ruled, afterRuling⟩ := run_bind_ok afterCount
  obtain ⟨_, s₄, inserted, returned⟩ := run_bind_ok afterRuling
  obtain ⟨assigned, ruledStore⟩ := Batch.ruling_ok ruled
  obtain ⟨read, countedTables⟩ := StoreRun.maxExaminationNumber_ok counted
  have lockedTables := StoreRun.lockCategory_ok locked
  have returned : (Except.ok { form with examinationNumber := some n }, s₄) = (.ok f, s') := returned
  simp only [Prod.mk.injEq, Except.ok.injEq] at returned
  obtain ⟨rfl, rfl⟩ := returned
  subst ruledStore
  rw [read, lockedTables] at assigned
  refine ⟨n, assigned, rfl, ?_⟩
  rw [← lockedTables, ← countedTables]
  exact StoreRun.insert_ok inserted

/-- The handler's numbering step refines the roster's: when the store and the roster
hold the same forms with the same numbers, a form the handler numbers and stores is the
form the roster accepts from the same submission, with the same number, and the two
still agree after it. -/
theorem storeForm_refines_submit {admission : AdmissionSettings} {bases : List (String × Int)}
    {i : SubmitInput} {id : String} {now : Instant} {s s' : ApplicationStore} {f : Application}
    {r : Roster} (agree : NumbersAgree s.tables.forms r.rows)
    (stored : (storeForm bases (newForm admission i id now)).run.run s = (.ok f, s')) :
    ∃ a, r.submit admission.homeRegion bases (submission i id) = .ok (a, ⟨r.rows ++ [a]⟩) ∧
      f = { a with userId := i.userId, submittedAt := now } ∧
      NumbersAgree s'.tables.forms (r.rows ++ [a]) := by
  obtain ⟨n, assigned, rfl, inserted⟩ := storeForm_ok stored
  obtain ⟨free, grown⟩ := Tables.insert_ok inserted
  have fresh : r.find? id = none := by
    have unused := Tables.id_fresh_of_clash free
    rw [agree.ids] at unused
    exact List.find?_eq_none.mpr fun a member same =>
      unused (List.mem_map.mpr ⟨a, member, (by simpa using same : a.id = id)⟩)
  -- the roster completes the same submission, and numbering reads only what both forms share
  have numbered : ExamNumber.assign bases (Roster.complete admission.homeRegion (submission i id))
      (r.highestNumber (Roster.complete admission.homeRegion (submission i id)).category) = .ok n := by
    rw [← Tables.maxNumber_eq_highestNumber agree]
    exact assigned
  refine ⟨{ Roster.complete admission.homeRegion (submission i id) with examinationNumber := some n }, ?_, rfl,
    ?_⟩
  · have sameId : (submission i id).id = id := rfl
    simp only [Roster.submit, sameId, fresh, Option.isSome_none, Bool.false_eq_true, if_false, numbered]
  · rw [grown]
    exact agree.append ⟨rfl, rfl, rfl⟩

end Handler

end Admissions
