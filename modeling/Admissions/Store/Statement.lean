namespace Admissions

/-- A statement of the application store. -/
inductive Statement where
  /-- Whether a user already handed in a form. -/
  | formExists
  /-- The forms in some statuses. -/
  | listByStatus
  /-- The forms in some statuses, locked for the transaction. -/
  | lockByStatus
  /-- The channels a status's message already went out on. -/
  | sentNotifications
  /-- Stores the outcome of one message. -/
  | recordNotification
  /-- Serialises numbering within a category until the transaction ends. -/
  | lockCategory
  /-- The highest examination number of a category. -/
  | maxExaminationNumber
  /-- Stores a new form. -/
  | insertForm
  /-- One form, locked for the transaction. -/
  | getForm
  /-- Moves forms from one status to another. -/
  | updateStatus
  /-- Sends a form back with a reason. -/
  | reject
  /-- Stores second-round scores, total and status. -/
  | saveSecondRound
  /-- Creates the tables. -/
  | createTables
  | begin
  | commit
  | rollback
  deriving BEq, DecidableEq, Repr, Inhabited

namespace Statement

def formColumns : String :=
  "id, user_id, form_type, category, applicant_name, phone_number, email, graduation_type, school_name, school_location, other_region, examination_number, status, grade, subject_grade_score, attendance_score, volunteer_score, bonus_score, depth_interview_score, ncs_score, coding_test_score, first_round_score, total_score, submitted_at"

def schema : String :=
  "CREATE TABLE IF NOT EXISTS applications ( id UUID PRIMARY KEY, user_id TEXT NOT NULL UNIQUE, form_type TEXT NOT NULL, category TEXT NOT NULL, applicant_name TEXT NOT NULL, phone_number TEXT NOT NULL, email TEXT NOT NULL DEFAULT '', graduation_type TEXT NOT NULL, school_name TEXT NOT NULL DEFAULT '', school_location TEXT NOT NULL DEFAULT '', other_region BOOLEAN NOT NULL DEFAULT FALSE, examination_number BIGINT, status TEXT NOT NULL, grade JSONB NOT NULL, subject_grade_score NUMERIC NOT NULL, attendance_score NUMERIC NOT NULL, volunteer_score NUMERIC NOT NULL, bonus_score NUMERIC NOT NULL, depth_interview_score NUMERIC, ncs_score NUMERIC, coding_test_score NUMERIC, first_round_score NUMERIC, total_score NUMERIC, rejection_reason TEXT, submitted_at TIMESTAMPTZ NOT NULL, updated_at TIMESTAMPTZ NOT NULL DEFAULT now(), UNIQUE (category, examination_number) ); CREATE INDEX IF NOT EXISTS idx_applications_status ON applications (status); CREATE TABLE IF NOT EXISTS notifications ( id UUID PRIMARY KEY, application_id UUID NOT NULL REFERENCES applications (id), status TEXT NOT NULL, channel TEXT NOT NULL, result TEXT NOT NULL, sent_at TIMESTAMPTZ NOT NULL ); -- Scores are kept unrounded; rounding happens only when results are reported. ALTER TABLE applications ALTER COLUMN subject_grade_score TYPE NUMERIC, ALTER COLUMN attendance_score TYPE NUMERIC, ALTER COLUMN volunteer_score TYPE NUMERIC, ALTER COLUMN bonus_score TYPE NUMERIC, ALTER COLUMN depth_interview_score TYPE NUMERIC, ALTER COLUMN ncs_score TYPE NUMERIC, ALTER COLUMN coding_test_score TYPE NUMERIC, ALTER COLUMN first_round_score TYPE NUMERIC, ALTER COLUMN total_score TYPE NUMERIC;"

def sql : Statement → String
  | .formExists => "SELECT EXISTS(SELECT 1 FROM applications WHERE user_id = $1)"
  | .listByStatus =>
    "SELECT " ++ formColumns ++ " FROM applications WHERE status = ANY($1) ORDER BY category, examination_number"
  | .lockByStatus =>
    "SELECT " ++ formColumns ++
      " FROM applications WHERE status = ANY($1) ORDER BY category, examination_number FOR UPDATE"
  | .sentNotifications =>
    "SELECT application_id, channel FROM notifications WHERE status = $1 AND result = 'sent'"
  | .recordNotification =>
    "INSERT INTO notifications (id, application_id, status, channel, result, sent_at) VALUES ($1, $2, $3, $4, $5, $6)"
  | .lockCategory => "SELECT pg_advisory_xact_lock(hashtext($1))"
  | .maxExaminationNumber =>
    "SELECT COALESCE(MAX(examination_number), 0) FROM applications WHERE category = $1"
  | .insertForm =>
    "INSERT INTO applications (" ++ formColumns ++ ") VALUES (" ++
      ", ".intercalate ((List.range 24).map fun i => "$" ++ toString (i + 1)) ++ ")"
  | .getForm => "SELECT " ++ formColumns ++ " FROM applications WHERE id = $1 FOR UPDATE"
  | .updateStatus =>
    "UPDATE applications SET status = $1, updated_at = now() WHERE id = ANY($2) AND status = $3"
  | .reject =>
    "UPDATE applications SET status = $1, rejection_reason = $2, updated_at = now() WHERE id = $3 AND status = $4"
  | .saveSecondRound =>
    "UPDATE applications SET depth_interview_score = $1, ncs_score = $2, coding_test_score = $3, total_score = $4, status = $5, updated_at = now() WHERE id = $6 AND status = $7"
  | .createTables => schema
  | .begin => "BEGIN"
  | .commit => "COMMIT"
  | .rollback => "ROLLBACK"

def kind : Statement → String
  | .formExists => "has_form"
  | .listByStatus => "list_by_status"
  | .lockByStatus => "lock_by_status"
  | .sentNotifications => "sent_notifications"
  | .recordNotification => "record_notification"
  | .lockCategory => "lock_category"
  | .maxExaminationNumber => "max_examination_number"
  | .insertForm => "insert"
  | .getForm => "get"
  | .updateStatus => "update_status"
  | .reject => "reject"
  | .saveSecondRound => "save_second_round"
  | .createTables => "migrate"
  | .begin => "begin"
  | .commit => "commit"
  | .rollback => "rollback"

end Statement

end Admissions
