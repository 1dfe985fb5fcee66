import SubnetRouter.Proofs.CommandLine.DryRun
import SubnetRouter.Proofs.Json.StringTexts

/-!
# Arguments of calls

An argument that is a JSON text stands for its value, and any other one for itself.  What a dry run
shows is read back with the values of all arguments, two levels below the top.

* `readArgument_eq_string_iff`: which arguments stand for themselves.
* `CallRequest.map_readArgument`: arguments in their compact texts.
* `Invocation.run_call_keeps_arguments`: from the arguments to what is shown, and back.
-/

namespace SubnetRouter

open Json (Exact)

/-! ## Single arguments -/

theorem readArgument_eq_string_iff (text : String) :
    readArgument text = .string text ↔ Json.read? text = none := by
  unfold readArgument
  cases hread : Json.read? text with
  | none => simp
  | some value =>
      rw [Option.getD_some]
      constructor
      · rintro rfl
        exact absurd (Json.length_of_read? hread) (Nat.lt_irrefl _)
      · intro h
        cases h

theorem readArgument_compact {value : Json} (h : Exact Json.maxDepth value) :
    readArgument value.compact = value := by
  rw [readArgument, Json.read?_compact h, Option.getD_some]

namespace CallRequest

variable {request : CallRequest} {values : List Json}

theorem map_readArgument (hargs : request.args = values.map Json.compact)
    (hvalues : ∀ value ∈ values, Exact Json.maxDepth value) :
    request.args.map readArgument = values := by
  calc request.args.map readArgument
      = values.map fun value => readArgument value.compact := by
        rw [hargs, List.map_map]
        rfl
    _ = values.map id :=
        List.map_congr_left fun value hvalue => readArgument_compact (hvalues value hvalue)
    _ = values := List.map_id values

end CallRequest

/-! ## Calls -/

namespace Invocation

/-- Values without floating-point numbers, nested at most 125 deep, that a call is given in their
compact texts are read back from what the call shows, each of them and in order.  A text stands for
itself exactly when it is no JSON text. -/
theorem run_call_keeps_arguments (idna : Url.Idna) :
    (∀ (i : Invocation) (request : CallRequest) (values : List Json) (files : Files)
      (env : Environment) (text : String),
      i.command = .call request → request.args = values.map Json.compact →
      (∀ value ∈ values, Exact 125 value) → i.run idna files env = .ok text →
      ∃ members, readArgument text = .object members ∧
        members.lookup "args" = some (.array values)) ∧
    ∀ text, readArgument text = .string text ↔ Json.read? text = none := by
  refine ⟨?_, readArgument_eq_string_iff⟩
  intro i request values files env text hcommand hargs hvalues hrun
  have hmap : request.args.map readArgument = values :=
    CallRequest.map_readArgument hargs fun value hvalue => (hvalues value hvalue).mono (by decide)
  rcases request.ready_or_firstFailure idna (i.source env) files with
    ⟨config, gateway, hready⟩ | ⟨fault, hfault⟩
  · rw [run_call_of_ready hcommand hready, Except.ok.injEq] at hrun
    refine ⟨_, hrun ▸ CallRequest.readArgument_shown (by rwa [hmap]) config gateway, ?_⟩
    rw [List.lookup_cons_self, hmap]
  · rw [run_call_of_firstFailure hcommand hfault] at hrun
    cases hrun

/-- Arrays within arrays. -/
def nested : Nat → Json
  | 0 => .null
  | depth + 1 => .array [nested depth]

theorem exact_nested (depth : Nat) : Exact depth (nested depth) := by
  induction depth with
  | zero => exact .null
  | succ depth ih => exact .array (by simpa using ih)

/-- A value that nests as deep as it may, and a string in quotes. -/
theorem run_call_keeps_arguments_nested :
    let values : List Json := [nested 125, .string "\"fund\""]
    let request : CallRequest :=
      ⟨Network.calibration.id, "Gateway", "fund", "abis", none, values.map Json.compact⟩
    let i : Invocation := ⟨some "calibration", none, .call request⟩
    ∃ text members, i.run .asciiOnly (fun _ => .ok fundArtifact.toUTF8) ⟨.unset, .unset⟩ = .ok text ∧
      readArgument text = .object members ∧ members.lookup "args" = some (.array values) ∧
      readArgument "fund" = .string "fund" := by
  intro values request i
  obtain ⟨hkeeps, hstands⟩ := run_call_keeps_arguments .asciiOnly
  have hvalues : ∀ value ∈ values, Exact 125 value := by
    intro value hvalue
    rcases List.mem_pair.1 hvalue with rfl | rfl
    · exact exact_nested 125
    · exact .string _
  obtain ⟨gateway, hready⟩ := exists_ready_fund .asciiOnly (values.map Json.compact)
  have hrun : i.run .asciiOnly (fun _ => .ok fundArtifact.toUTF8) ⟨.unset, .unset⟩ =
      .ok (request.shown Network.calibration.config gateway).indented :=
    run_call_of_ready rfl hready
  obtain ⟨members, hread, hlookup⟩ := hkeeps i request values _ _ _ rfl rfl hvalues hrun
  exact ⟨_, members, hrun, hread, hlookup, (hstands "fund").2 (by decide +kernel)⟩

end Invocation

end SubnetRouter
