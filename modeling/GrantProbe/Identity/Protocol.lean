import GrantProbe.Identity.Issue

/-!
# Issuing identities as programs

What issuing an identity asks of the world, as a signature of its own: calls for service accounts, and
sleeps between requests for a token.

* `accountSignature`: the signature;
* `issuing`: the world of `Accounts.identities` over it.
-/

namespace GrantProbe

/-- **The requests of issuing.** -/
inductive AccountAsk where
  | call (c : AccountCall)
  | sleep (d : Duration)

/-- The answer to a request. -/
abbrev AccountAsk.Answer : AccountAsk → Type
  | call c => Outcome c.Answer
  | sleep _ => Unit

/-- The signature of issuing. -/
def accountSignature : Signature := ⟨AccountAsk, AccountAsk.Answer⟩

/-- **Issuing over the signature.** Token requests are repeated at the pace set for them. -/
def issuing : Accounts accountSignature Duration where
  call c := Task.of (Program.perform (S := accountSignature) (.call c))
  pace := RetryConfig.tokenRequest.pace .clock
    (fun d => Program.perform (S := accountSignature) (.sleep d)) (.done 1.0)

end GrantProbe
