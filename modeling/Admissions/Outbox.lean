import Admissions.Json.Basic

namespace Admissions

/-- A message sent to an applicant. -/
inductive OutboxMessage where
  /-- An e-mail: recipient, sender, subject, character set and text. -/
  | email (recipient sender subject charset body result : String)
  /-- A text message to a phone number, with its attributes. -/
  | text (phone body : String) (attributes : List (String × String)) (result : String)
  deriving Inhabited

namespace OutboxMessage

/-- The message as JSON; an empty sender or character set is left out, and so
are empty attributes. -/
def toJson : OutboxMessage → Json
  | .email recipient sender subject charset body result =>
    .obj ([("channel", .str "email"), ("to", .str recipient)] ++
      (if sender.isEmpty then [] else [("from", .str sender)]) ++
      [("subject", .str subject)] ++
      (if charset.isEmpty then [] else [("charset", .str charset)]) ++
      [("body", .str body), ("result", .str result)])
  | .text phone body attributes result =>
    .obj ([("channel", .str "sms"), ("to", .str phone), ("body", .str body)] ++
      (if attributes.isEmpty then [] else
        [("attributes", Json.sortKeys (.obj (attributes.map fun (k, v) => (k, .str v))))]) ++
      [("result", .str result)])

end OutboxMessage

/-- The outbox: every message sent, the number already read, and the recipients
whose messages are refused. -/
structure Outbox where
  messages : List OutboxMessage := []
  read : Nat := 0
  refused : List String := []
  deriving Inhabited

namespace Outbox

def resultWord (failed : Bool) : String := if failed then "failed" else "sent"

/-- Sends an e-mail from a sender address; the refusal, if any, and the outbox after. -/
def sendEmail (o : Outbox) (sender recipient subject body : String) : Option String × Outbox :=
  let failed := o.refused.contains recipient
  let m := OutboxMessage.email recipient sender subject "UTF-8" body (resultWord failed)
  (if failed then some ("ses: message rejected for " ++ recipient) else none,
    { o with messages := o.messages ++ [m] })

/-- The attributes of a text message: transactional, and the sender id when there is one. -/
def textAttributes (senderId : String) : List (String × String) :=
  [("AWS.SNS.SMS.SMSType", "String:Transactional")] ++
    (if senderId.isEmpty then [] else [("AWS.SNS.SMS.SenderID", "String:" ++ senderId)])

def sendText (o : Outbox) (senderId phone body : String) : Option String × Outbox :=
  let failed := o.refused.contains phone
  let m := OutboxMessage.text phone body (textAttributes senderId) (resultWord failed)
  (if failed then some ("sns: publish failed for " ++ phone) else none,
    { o with messages := o.messages ++ [m] })

/-- The messages sent since the last reading, and the outbox after this one. -/
def drain (o : Outbox) : List OutboxMessage × Outbox :=
  (o.messages.drop o.read, { o with read := o.messages.length })

end Outbox

end Admissions
