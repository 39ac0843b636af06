import OpenPool.Api.Origins
import OpenPool.Store.Catalogue

/-! # Raffles and organizers belong to logins

Behind each raffle and each organizer that is stored stands a request whose cookie names the session
of a login. Identities for development are off here, as in every deployment that takes payments. -/

namespace OpenPool.Api

open Fallible Program Text

section Ownership

variable {deployment : Deployment} {system : System}

/-! ## Raffles -/

theorem ids_of_validatedRaffle {api : ApiState} {body : RaffleRequest} {id : RaffleId}
    {organizerId : OrganizerId} {raffle : NewDraftRaffle}
    (h : validatedRaffle api body id organizerId = .ok raffle) :
    raffle.id = id ∧ raffle.organizerId = organizerId := by
  simp only [validatedRaffle, bind_eq_ok_iff, pure_eq_ok_iff] at h
  obtain ⟨-, -, -, -, start, -, stop, -, -, -, winner, -, organizer, -, platform, -, split, -, rfl⟩ := h
  exact ⟨rfl, rfl⟩

/-- The terms and the split of a raffle are what this body asks for, which its organizer has sent. -/
structure System.SetByOrganizer (deployment : Deployment) (system : System) (row : RaffleRow)
    (split : PayoutSplitRow) (headers : HeaderMap) (body : RaffleRequest) : Prop where
  received : system.Received (.createRaffle headers body) ∨
    system.Received (.updateRaffle headers row.id.uuid body)
  valid : ∃ raffle, validatedRaffle deployment.api body row.id row.organizerId = .ok raffle ∧
    row.terms = raffle.terms row.organizerId ∧ split = raffle.payoutSplit.row row.id
  organizer : system.ActsAs deployment headers "organizer" row.organizerId.uuid
  sameSite : system.SameSite deployment headers

theorem System.Offered.setByOrganizer {row : RaffleRow} {split : PayoutSplitRow}
    (h : system.Offered row.terms split) (hpath : system.OnPath deployment)
    (hsound : system.SessionsSound deployment)
    (hdev : deployment.api.developmentIdentityEnabled = false) :
    ∃ headers body, system.SetByOrganizer deployment row split headers body := by
  obtain ⟨call, statement, raffle, hmade, hsets, hterms, hsplit⟩ := h
  have hid : raffle.id = row.id := (congrArg RaffleTerms.id hterms).symm
  obtain ⟨trace, hheard, hallowed⟩ := hmade.allowed hpath
  generalize horganizer : row.terms.organizerId = organizerId at hsets hterms
  cases hsets with
  | create raffle =>
      cases hallowed with
      | read _ _ hreads => cases hreads
      | createDraftRaffle headers body id organizerId raffle _ hcsrf hself hvalid =>
          obtain ⟨hidArg, howner⟩ := ids_of_validatedRaffle hvalid
          obtain rfl : organizerId = row.organizerId := howner.symm.trans horganizer.symm
          obtain rfl : id = row.id := hidArg.symm.trans hid
          exact ⟨headers, body, {
            received := .inl hheard.received
            valid := ⟨raffle, hvalid, howner ▸ hterms, hid ▸ hsplit⟩
            organizer := hsound.organizer hheard hdev hself
            sameSite := hsound.sameSite hheard hdev hcsrf }⟩
  | edit organizerId raffle =>
      cases hallowed with
      | read _ _ hreads => cases hreads
      | updateRaffle headers id body organizerId raffle _ hcsrf hself hvalid =>
          obtain ⟨hidArg, -⟩ := ids_of_validatedRaffle hvalid
          obtain rfl : organizerId = row.organizerId := horganizer.symm
          have hsame : (⟨id⟩ : RaffleId) = row.id := hidArg.symm.trans hid
          rw [hsame] at hvalid
          exact ⟨headers, body, {
            received := .inr (by rw [← hsame]; exact hheard.received)
            valid := ⟨raffle, hvalid, hterms, hid ▸ hsplit⟩
            organizer := hsound.organizer hheard hdev hself
            sameSite := hsound.sameSite hheard hdev hcsrf }⟩

/-! ## Organizers -/

/-- The organizer has registered with this body. -/
structure System.RegisteredBy (deployment : Deployment) (system : System) (row : OrganizerRow)
    (headers : HeaderMap) (body : OrganizerRequest) : Prop where
  received : system.Received (.createOrganizer headers body)
  named : trim body.displayName ≠ "" ∧ row.displayName = body.displayName
  /-- What is stored opens to the address, with the key of the deployment. -/
  address : trim body.lightningAddress ≠ "" ∧
    deployment.services.decrypt row.lightningAddressCiphertext = .ok body.lightningAddress
  organizer : system.ActsAs deployment headers "organizer" row.id.uuid
  sameSite : system.SameSite deployment headers

/-- A worker opens what a handler has sealed. -/
theorem decrypt_of_encrypt (hcipher : deployment.api.addressCipher.aead.Lawful) {nonce : AeadNonce}
    {address : String} {ciphertext : List UInt8}
    (h : deployment.api.addressCipher.encrypt nonce address = .ok ciphertext) :
    deployment.services.decrypt ciphertext = .ok address := by
  rw [deployment.decrypts, AddressCipher.decrypt_encrypt hcipher h]
  rfl

theorem System.Made.registeredBy {call : Call} {row : OrganizerRow}
    (h : system.Made call
      (.createOrganizer ⟨row.id, row.displayName, row.lightningAddressCiphertext⟩))
    (hpath : system.OnPath deployment) (hsound : system.SessionsSound deployment)
    (hdev : deployment.api.developmentIdentityEnabled = false)
    (hcipher : deployment.api.addressCipher.aead.Lawful) :
    ∃ headers body, system.RegisteredBy deployment row headers body := by
  obtain ⟨trace, hheard, hallowed⟩ := h.allowed hpath
  generalize hnew : (⟨row.id, row.displayName, row.lightningAddressCiphertext⟩ : NewOrganizer) = new
    at hallowed
  cases hallowed with
  | read _ _ hreads => cases hreads
  | createOrganizer headers body organizerId nonce ciphertext _ hcsrf hself hbody hseal =>
      obtain ⟨hid, hname, hciphertext⟩ := NewOrganizer.mk.inj hnew
      exact ⟨headers, body, {
        received := hheard.received
        named := ⟨hbody.1, hname⟩
        address := ⟨hbody.2, by rw [hciphertext]; exact decrypt_of_encrypt hcipher hseal⟩
        organizer := by rw [hid]; exact hsound.organizer hheard hdev hself
        sameSite := hsound.sameSite hheard hdev hcsrf }⟩

end Ownership

/-- In every run, whatever the workers and the other handlers do, the terms and the percentages of a
stored raffle are those of one valid body. Its request carried the cookie of a session, made for a
login whose identity has the role of an organizer and is the raffle's, and the session's token. -/
theorem raffles_set_by_organizers (deployment : Deployment)
    (hdev : deployment.api.developmentIdentityEnabled = false) (actions : List Action)
    (row : RaffleRow) (hmem : row ∈ (System.after deployment actions).db.raffles.rows) :
    ∃ split ∈ (System.after deployment actions).db.payoutSplits.rows, ∃ headers body,
      (System.after deployment actions).SetByOrganizer deployment row split headers body := by
  obtain ⟨split, hsplit, hid⟩ :=
    (System.valid_after deployment actions).shared.lawful.sound.split_of_raffle hmem
  refine ⟨split, hsplit, ?_⟩
  have hoffered := (System.accounts_after deployment actions).raffles row.terms
    (List.mem_map_of_mem hmem) split hsplit hid
  exact hoffered.setByOrganizer (System.onPath_after deployment actions)
    (System.sessionsSound_after deployment actions) hdev

/-- In every run each stored organizer has registered with a login of their own, under the name and
with the address of their request; and the address is what the workers decrypt. -/
theorem organizers_registered (deployment : Deployment)
    (hdev : deployment.api.developmentIdentityEnabled = false)
    (hcipher : deployment.api.addressCipher.aead.Lawful) (actions : List Action)
    (row : OrganizerRow) (hmem : row ∈ (System.after deployment actions).db.organizers.rows) :
    ∃ headers body, (System.after deployment actions).RegisteredBy deployment row headers body := by
  obtain ⟨call, hmade⟩ := (System.accounts_after deployment actions).organizers row hmem
  exact hmade.registeredBy (System.onPath_after deployment actions)
    (System.sessionsSound_after deployment actions) hdev hcipher

/-! ## A small deployment -/

namespace ApiSample

open SampleRun (uuid secondsAfter)

/-- Seals with a tag of sixteen zero bytes. -/
def aead : Aead where
  encrypt _ plaintext := some (plaintext ++ List.replicate 16 0)
  decrypt _ ciphertext :=
    if ciphertext.drop (ciphertext.length - 16) = List.replicate 16 0 then
      some (ciphertext.take (ciphertext.length - 16))
    else none

theorem aead_lawful : aead.Lawful where
  decrypt_encrypt := by
    intro nonce plaintext ciphertext h
    obtain rfl := Option.some.inj h
    simp [aead]
  tagged := by
    intro nonce plaintext ciphertext h
    obtain rfl := Option.some.inj h
    simp

def sessionId : Uuid := uuid 31

def csrfToken : Uuid := uuid 32

def raffleId : Uuid := uuid 33

def invoiceId : Uuid := uuid 34

def secondInvoiceId : Uuid := uuid 47

def webhookBody : List UInt8 := utf8 "webhook"

def secondWebhookBody : List UInt8 := utf8 "second webhook"

/-- What a webhook says. -/
def notification (eventId : String) (invoiceId : Uuid) : JsonValue :=
  .object [("event_id", .string eventId), ("invoice_id", .string invoiceId.toString)]

def api : ApiState where
  prim := .standard
  describe _ := "database error"
  addressCipher := ⟨aead⟩
  mavapayWebhookSecret := some (utf8 "secret")
  developmentIdentityEnabled := false
  oidc := true
  secureSessionCookie := true
  parseUuid text :=
    [sessionId, csrfToken, raffleId, invoiceId, secondInvoiceId].find? fun id => id.toString = text
  parseRfc3339 text :=
    if text = "2000-01-01T00:00:00Z" then some (secondsAfter 0)
    else if text = "2000-01-01T00:01:40Z" then some (secondsAfter 100)
    else none
  fromSlice body :=
    if body = webhookBody then some (notification "event" invoiceId)
    else if body = secondWebhookBody then some (notification "second event" secondInvoiceId)
    else none

def deployment : Deployment where
  api
  services := { WorldSample.services with
    decrypt value := (api.addressCipher.decrypt value).mapError ApiStartupError.toString }
  decrypts _ := rfl

def reply : (question : Question) → Except String question.Value
  | .beginAuthorization => .ok ⟨"https://login", "state", "nonce", "verifier"⟩
  | .exchangeCode .. => .ok ⟨"alice", ["organizer", "operator"]⟩
  | .createCollection request =>
      if request.invoiceId.uuid = invoiceId then
        .ok ⟨"quote", "payment", "lnbc", request.amountSats, request.expiresAt⟩
      else
        .ok ⟨"second quote", "second payment", "second lnbc", request.amountSats,
          request.expiresAt⟩

/-- The surroundings `seconds` after the start. -/
def choiceAt (seconds : ℕ) (id : Uuid) : Choice where
  now := seconds * 1000000
  eventRowId := id
  jobId := id
  fault := none
  reply
  read
    | .now => (WorldSample.choiceAt seconds id).instant
    | .uuid => id
    | .nonce => ⟨List.replicate 12 0, rfl⟩
  createdAt _ := 0
  updatedAt _ := 0

/-- A request that its handler answers after these steps. -/
def request (index : ℕ) (call : Call) (choices : List Choice) : List Action :=
  .receive call :: choices.map (.serve index)

/-- The headers of the browser after its login. -/
def headers : HeaderMap where
  values := [
    ("cookie", utf8 ("openpool_session=" ++ sessionId.toString)),
    ("x-openpool-csrf", utf8 csrfToken.toString)]

def loggedIn : List Action :=
  request 0 .oidcLogin (List.replicate 3 (choiceAt 0 sessionId)) ++
  request 1 (.oidcCallback "code" "state") [choiceAt 0 sessionId, choiceAt 0 sessionId,
    choiceAt 0 sessionId, choiceAt 0 csrfToken, choiceAt 0 sessionId, choiceAt 0 sessionId]

def raffleBody : RaffleRequest where
  name := " raffle "
  entryPriceSats := 1000
  startTime := "2000-01-01T00:00:00Z"
  endTime := "2000-01-01T00:01:40Z"
  winnerBps := 8000
  organizerBps := 1500
  platformBps := 500

/-- The organizer registers and makes a raffle. -/
def offered : List Action := loggedIn ++
  request 2 (.createOrganizer headers ⟨"Alice", "alice@example.org"⟩)
    (List.replicate 4 (choiceAt 0 raffleId)) ++
  request 3 (.createRaffle headers raffleBody) (List.replicate 5 (choiceAt 0 raffleId))

end ApiSample

theorem raffles_set_by_sample_organizer :
    ∃ row ∈ (System.after ApiSample.deployment ApiSample.offered).db.raffles.rows,
      ∃ split ∈ (System.after ApiSample.deployment ApiSample.offered).db.payoutSplits.rows,
      ∃ headers body, (System.after ApiSample.deployment ApiSample.offered).SetByOrganizer
        ApiSample.deployment row split headers body := by
  have hsome : (System.after ApiSample.deployment ApiSample.offered).db.raffles.rows ≠ [] := by
    decide +kernel
  obtain ⟨row, hmem⟩ := List.exists_mem_of_ne_nil _ hsome
  exact ⟨row, hmem, raffles_set_by_organizers ApiSample.deployment rfl ApiSample.offered row hmem⟩

theorem sample_organizer_registered :
    ∃ row ∈ (System.after ApiSample.deployment ApiSample.offered).db.organizers.rows,
      ∃ headers body, (System.after ApiSample.deployment ApiSample.offered).RegisteredBy
        ApiSample.deployment row headers body := by
  have hsome : (System.after ApiSample.deployment ApiSample.offered).db.organizers.rows ≠ [] := by
    decide +kernel
  obtain ⟨row, hmem⟩ := List.exists_mem_of_ne_nil _ hsome
  exact ⟨row, hmem, organizers_registered ApiSample.deployment rfl ApiSample.aead_lawful
    ApiSample.offered row hmem⟩

end OpenPool.Api
