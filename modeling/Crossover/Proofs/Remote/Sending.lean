import Crossover.Remote.Client

/-!
# Single requests

What comes of one request: a reply that counts, one that does not, or none. A transport that
records what it is asked replies as it did before. A client logs in with one request, which brings
it a token or a failure of the exchange.
-/

namespace Crossover.Remote

variable {κ : Type}

/-- The transport with a list of the requests so far, the latest at the end. -/
def recording (transport : Transport κ) : Transport (κ × List Request) := fun request k =>
  let (reply, k') := transport request k.1
  (reply, k', k.2 ++ [request])

/-- A server without state that has one response for each path. -/
def serving (responses : List (String × Response)) : Transport Unit := fun request k =>
  (.ok ((responses.lookup request.path).getD ⟨404, ""⟩), k)

def Response.Counts (response : Response) : Prop :=
  200 ≤ response.status ∧ response.status ≤ 299

instance (response : Response) : Decidable response.Counts :=
  inferInstanceAs (Decidable (_ ∧ _))

section Sending

variable {transport : Transport κ} {request : Request} {k k' : κ}

theorem send_counts {response : Response} (h : transport request k = (.ok response, k'))
    (hcounts : response.Counts) : send transport request k = (.ok response, k') := by
  simp only [send, h]
  exact if_pos hcounts

theorem send_refused {response : Response} (h : transport request k = (.ok response, k'))
    (hcounts : ¬ response.Counts) :
    send transport request k = (.error (.ofFault (.unexpectedStatus response.status)), k') := by
  simp only [send, h]
  exact if_neg hcounts

theorem send_unanswered {why : NoResponse} (h : transport request k = (.error why, k')) :
    send transport request k = (.error (.outside .transport why.message why.because), k') := by
  simp only [send, h]

end Sending

/-- What can go wrong with an exchange: no answer comes, or one that does not count, or one that
cannot be read. -/
inductive OfExchange : Cause Float → Prop
  | unanswered (why : NoResponse) : OfExchange (.outside .transport why.message why.because)
  | refused (status : Nat) : OfExchange (.fault (.unexpectedStatus status))
  | unreadable (message : String) (because : List String) :
      OfExchange (.outside .body message because)

/-- All that can come of a request. -/
theorem send_cases (transport : Transport κ) (request : Request) (k : κ) :
    (∃ response, send transport request k = (.ok response, (transport request k).2)) ∨
      ∃ f, OfExchange f.cause ∧ send transport request k = (.error f, (transport request k).2) := by
  rcases h : transport request k with ⟨reply, k'⟩
  cases reply with
  | error why => exact .inr ⟨_, .unanswered why, send_unanswered h⟩
  | ok response =>
      by_cases hcounts : response.Counts
      · exact .inl ⟨response, send_counts h hcounts⟩
      · exact .inr ⟨_, .refused response.status, send_refused h hcounts⟩

theorem send_recording (transport : Transport κ) (request : Request) (k : κ)
    (asked : List Request) :
    send (recording transport) request (k, asked) =
      ((send transport request k).1, (send transport request k).2, asked ++ [request]) := by
  rcases h : transport request k with ⟨reply, k'⟩
  have hrecorded : recording transport request (k, asked) = (reply, k', asked ++ [request]) := by
    simp only [recording, h]
  cases reply with
  | error why => rw [send_unanswered h, send_unanswered hrecorded]
  | ok response =>
      by_cases hcounts : response.Counts
      · rw [send_counts h hcounts, send_counts hrecorded hcounts]
      · rw [send_refused h hcounts, send_refused hrecorded hcounts]

theorem ofExchange_of_decode {α : Type} {read : Json.Reader α} {response : Response}
    {f : Failure Float} (h : decode read response = .error f) : OfExchange f.cause := by
  unfold decode at h
  split at h
  · cases h
  · cases h
    exact .unreadable _ _

def Client.tokenRequest (c : Client) : Request :=
  ⟨.get, c.base, Connection.tokenPath, some (.basic c.username c.password), none⟩

namespace Connection

def tokenOf (response : Response) : Except (Failure Float) Wire.Token :=
  inContext "decoding token response" (decode Wire.token.read response)

def received (c : Client) (reply : Except (Failure Float) Response) :
    Except (Failure Float) Unit × Client :=
  match reply >>= tokenOf with
  | .error f => (.error f, c)
  | .ok answer => (.ok (), { c with token := some answer.token })

theorem logIn_eq (transport : Transport κ) (c : Client) (k : κ) :
    logIn transport ⟨c, k⟩ =
      ((received c (Remote.send transport c.tokenRequest k).1).1,
        ⟨(received c (Remote.send transport c.tokenRequest k).1).2,
          (Remote.send transport c.tokenRequest k).2⟩) := by
  rcases h : Remote.send transport c.tokenRequest k with ⟨reply, k'⟩
  have hsent : Connection.send transport c.tokenRequest ⟨c, k⟩ = (reply, ⟨c, k'⟩) := by
    simp only [Connection.send, h]
  have hasked : (⟨.get, c.base, tokenPath, some (.basic c.username c.password), none⟩ : Request) =
      c.tokenRequest := rfl
  simp only [logIn, hasked, hsent]
  cases reply with
  | error f => rfl
  | ok response =>
      have hread : (Except.ok response >>= tokenOf) =
          inContext "decoding token response" (decode Wire.token.read response) := rfl
      simp only [received, hread]
      cases inContext "decoding token response" (decode Wire.token.read response) <;> rfl

/-- Logging in is one request, and brings a token or a failure of the exchange. -/
theorem logIn_cases (transport : Transport κ) (c : Client) (k : κ) :
    (∃ token, logIn transport ⟨c, k⟩ =
        (.ok (), ⟨{ c with token := some token }, (transport c.tokenRequest k).2⟩)) ∨
      ∃ f, OfExchange f.cause ∧
        logIn transport ⟨c, k⟩ = (.error f, ⟨c, (transport c.tokenRequest k).2⟩) := by
  rw [logIn_eq]
  rcases send_cases transport c.tokenRequest k with ⟨response, hsent⟩ | ⟨f, hcause, hsent⟩
  · rw [hsent]
    cases hread : decode Wire.token.read response with
    | error f =>
        have hcause : OfExchange f.cause := ofExchange_of_decode hread
        refine .inr ⟨f.within "decoding token response", hcause, ?_⟩
        simp only [received, tokenOf, hread, bind, Except.bind]
        rfl
    | ok answer =>
        refine .inl ⟨answer.token, ?_⟩
        simp only [received, tokenOf, hread, bind, Except.bind]
        rfl
  · rw [hsent]
    exact .inr ⟨f, hcause, rfl⟩

/-- Over a recording transport a client logs in as it does over the transport itself. -/
theorem logIn_recording (transport : Transport κ) (c : Client) (k : κ) (asked : List Request) :
    logIn (recording transport) ⟨c, (k, asked)⟩ =
      ((logIn transport ⟨c, k⟩).1, ⟨(logIn transport ⟨c, k⟩).2.client,
        ((logIn transport ⟨c, k⟩).2.link, asked ++ [c.tokenRequest])⟩) := by
  rw [logIn_eq, logIn_eq, send_recording]

end Connection

end Crossover.Remote
