import GrantProbe.Access.Verification

/-!
# Verifications as programs

What a verification asks of the world, as a signature of its own: access reviews, and sleeps whose
delays are of any kind.

* `PollAsk`, `polling`: the requests, and the signature for a kind of delays;
* `poller`: the reviews and sleeps of a verification as such requests.
-/

namespace GrantProbe

/-- **The requests of a verification.** -/
inductive PollAsk (δ : Type) where
  | review (query : Review)
  | sleep (d : δ)

/-- The answer to a request: a review may end in an error. -/
abbrev PollAsk.Answer {δ : Type} : PollAsk δ → Type
  | review _ => Except Error Decision
  | sleep _ => Unit

/-- The signature of verifications with delays `δ`. -/
abbrev polling (δ : Type) : Signature := ⟨PollAsk δ, PollAsk.Answer⟩

/-- **Reviews and sleeps,** each as one request. -/
def poller (δ : Type) : Reviewer (polling δ) δ where
  review q := do
    let answer ← Task.always (Program.perform (S := polling δ) (.review q))
    Task.check answer
  sleep d := Task.always (Program.perform (S := polling δ) (.sleep d))

end GrantProbe
