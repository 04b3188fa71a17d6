import NextApp.Model.ServerRequest

/-! # Reporting an error

The snack bar of a server exception shows the message from its unit 22 on: a shorter message has none, and the report
throws in its turn. -/

namespace NextApp
open TextSearch
variable {β φ : Type} {e : Thrown} {effects : List (RequestEffect φ)}

def RequestEffect.ran : RequestEffect φ → Option φ
  | callback onException => some onException
  | _ => none

/-- A failure is reported: the handler ends with `false`, and has run the callback if it is given one. -/
structure HandledRequest.Reports (handled : HandledRequest β φ) (onException : Option φ) : Prop where
  ends : handled.ends = .failed
  ran : handled.effects.filterMap RequestEffect.ran = onException.toList

/-- There is something to show of the message. -/
def Thrown.Long (e : Thrown) : Prop := ∀ message, e = .serverException message → 22 ≤ message.length

theorem Thrown.report_isSome_iff (φ : Type) (e : Thrown) : (e.report φ).isSome ↔ e.Long := by
  cases e with
  | serverException message =>
    rw [report, Option.isSome_map, Long]
    simp only [substring, serverException.injEq, forall_eq', Option.isSome_ite]
    omega
  | _ => exact iff_of_true rfl fun message h => by cases h

theorem Thrown.ran_report (h : e.report φ = some effects) : effects.filterMap RequestEffect.ran = [] := by
  cases e with
  | serverException message =>
    obtain ⟨error, -, rfl⟩ := Option.map_eq_some_iff.mp h
    rfl
  | _ =>
    cases h
    rfl

namespace ServerRequest

/-- Whatever a request throws, its failure is reported exactly when the message of a server exception is long enough. -/
theorem reports_iff (e : Thrown) (onException : Option φ) :
    (handleRequest (.error e : Except Thrown β) onException).Reports onException ↔ e.Long := by
  rw [← Thrown.report_isSome_iff φ, handleRequest]
  cases hreport : e.report φ with
  | none =>
    refine iff_of_false (fun h => ?_) (by simp)
    cases h.ends
  | some effects =>
    refine iff_of_true ⟨rfl, ?_⟩ rfl
    rw [List.filterMap_append, Thrown.ran_report hreport, List.nil_append, List.filterMap_map]
    exact List.filterMap_some

/-- The message of a download that times out is too short. -/
theorem timed_out_not_reported :
    ¬ (∀ (e : Thrown) (onException : Option String),
      (handleRequest (.error e : Except Thrown Unit) onException).Reports onException) ∧
    (openFile (.dioException true)).1 = { effects := [], ends := .rangeError } := by
  have hthrows : (openFile (.dioException true)).1 = { effects := [], ends := .rangeError } := by decide
  refine ⟨fun h => ?_, hthrows⟩
  have hends := (h (.serverException (codeUnits "connection time out")) (some "something went wrong :(")).ends
  exact absurd (hends.symm.trans (congrArg HandledRequest.ends hthrows)) (by decide)

end ServerRequest

/-- The loading dialog of a file that is opened stays exactly when the connection has timed out. -/
theorem openFile_dialog_iff (reply : DownloadReply) : (openFile reply).2 ↔ reply = .dioException true := by
  cases reply with
  | written => decide
  | dioException timeout => cases timeout <;> decide
  | error => decide

end NextApp
