/-
A transport whose answers are prepared beforehand. Answers wait in a queue; what the
queue does not cover goes to a responder, if there is one. Every request that gets
as far as being answered is recorded.
-/
import GuidedLogin.Proc
import GuidedLogin.Response

namespace GuidedLogin

structure Reply where
  status : Nat
  headers : Headers
  body : List UInt8

namespace Reply

def ofJson (status : Nat) (value : Json) : Reply :=
  ⟨status, Response.jsonHeaders, Response.jsonBytes value⟩

def answer (reply : Reply) (request : Request) : Response :=
  ⟨request, reply.status, reply.headers, reply.body⟩

end Reply

inductive Answer where
  | reply (reply : Reply)
  | error (cause : Error)

/-- The response to a request that an answer is, or the error that it is. -/
def Answer.give : Answer → Request → Except Error Response
  | .reply prepared, request => .ok (prepared.answer request)
  | .error cause, _ => .error cause

structure Desk where
  queue : List Answer
  requests : List Request

namespace Desk

def ofAnswers (answers : List Answer) : Desk := ⟨answers, []⟩

def enqueue (desk : Desk) (answer : Answer) : Desk :=
  { desk with queue := desk.queue ++ [answer] }

def unanswered (request : Request) : Error :=
  .unanswered request.method ((request.url.map Url.render).getD "<no url>")

def serve (responder : Option (Request → Except Error Response)) (request : Request) (desk : Desk) :
    Except Error Response × Desk :=
  let requests := desk.requests ++ [request]
  match desk.queue with
  | answer :: queue => (answer.give request, ⟨queue, requests⟩)
  | [] =>
      match responder with
      | some respond => (respond request, ⟨[], requests⟩)
      | none => (.error (unanswered request), ⟨[], requests⟩)

def send (delay : Nat) (responder : Option (Request → Except Error Response)) (request : Request) :
    Proc Desk Response :=
  (Proc.sleep delay).bind fun _ =>
    (Proc.step (serve responder request)).bind Proc.ofExcept

end Desk

end GuidedLogin
