import VulkanBridge.Program
/-!
# Traces

A trace is what a program asked for and what it was answered, in order. `Program.Runs` relates a program to
the traces it may leave and to the result it ends with then: whatever holds of every trace holds with every
driver, every allocator and every library. Programs in sequence leave one trace after the other
(`runs_bind_iff`).
-/

namespace VulkanBridge

/-- A request with its answer. -/
structure Exchange where
  request : Request
  answer : request.Answer

abbrev Trace := List Exchange

namespace Program

variable {α β : Type}

/-- The program, answered as in the trace, asks for no more and ends with the result. -/
def Runs : Program α → Trace → α → Prop
  | done value, trace, result => trace = [] ∧ value = result
  | ask request next, trace, result =>
    ∃ answer rest, trace = ⟨request, answer⟩ :: rest ∧ (next answer).Runs rest result

@[simp] theorem runs_done_iff {value result : α} {trace : Trace} :
    (done value).Runs trace result ↔ trace = [] ∧ value = result := Iff.rfl

@[simp] theorem runs_ask_iff {request : Request} {next : request.Answer → Program α} {trace : Trace} {result : α} :
    (ask request next).Runs trace result ↔
      ∃ answer rest, trace = ⟨request, answer⟩ :: rest ∧ (next answer).Runs rest result := Iff.rfl

theorem runs_bind_iff {program : Program α} {next : α → Program β} {trace : Trace} {result : β} :
    (program >>= next).Runs trace result ↔
      ∃ first last value, trace = first ++ last ∧ program.Runs first value ∧ (next value).Runs last result := by
  induction program generalizing trace with
  | done value =>
    constructor
    · exact fun runs => ⟨[], trace, value, rfl, ⟨rfl, rfl⟩, runs⟩
    · rintro ⟨_, _, _, rfl, ⟨rfl, rfl⟩, runs⟩
      exact runs
  | ask request answered ih =>
    simp only [ask_bind, runs_ask_iff, ih]
    constructor
    · rintro ⟨answer, _, rfl, first, last, value, rfl, runs, rest⟩
      exact ⟨⟨request, answer⟩ :: first, last, value, rfl, ⟨answer, first, rfl, runs⟩, rest⟩
    · rintro ⟨_, last, value, rfl, ⟨answer, first, rfl, runs⟩, rest⟩
      exact ⟨answer, first ++ last, rfl, first, last, value, rfl, runs, rest⟩

end Program

end VulkanBridge
