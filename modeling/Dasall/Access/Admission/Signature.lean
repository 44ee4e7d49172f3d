import Dasall.Access.Admission.AtMostOnce

/-!
# Which requests share a signature

The signature joins four texts with `|` and escapes nothing. Cutting it at every `|` gives back
the pieces of the four texts, one after the other, and no more: not where one text ends, and not
whether the last one is an explicit key or a packet id.
-/

open Dasall.Lib Dasall.Lib.Text Dasall.Lib.Run

namespace Dasall.Access

/-- The byte `|`. -/
def separator : Byte := 124

/-- The last of the four texts: the explicit key, or else the packet id. -/
def keyOrPacketId (request : RuntimeDispatchRequest) : Bytes :=
  (explicitKey request).getD request.packet.packetId

def components (request : RuntimeDispatchRequest) : List Bytes :=
  [request.packet.entryType, request.packet.protocolKind, request.subjectIdentity.actorRef,
    keyOrPacketId request]

/-- The four texts, each cut at every `|`. -/
def pieces (request : RuntimeDispatchRequest) : List Bytes :=
  (components request).flatMap (List.splitOn separator)

/-- The request has a signature. -/
def Signed (request : RuntimeDispatchRequest) : Prop :=
  explicitKey request ≠ none ∨
    (request.packet.packetId ≠ [] ∧ request.subjectIdentity.actorRef ≠ [])

/-! ## Signatures and pieces -/

variable (request first second : RuntimeDispatchRequest)

theorem signature_eq (h : Signed request) :
    buildIdempotencySignature request =
      request.packet.entryType ++ separator :: (request.packet.protocolKind ++ separator ::
        (request.subjectIdentity.actorRef ++ separator :: keyOrPacketId request)) := by
  have hbar : str "|" = [separator] := by decide
  unfold buildIdempotencySignature keyOrPacketId
  cases hkey : explicitKey request with
  | some key =>
    simp only [hbar, List.append_assoc, List.cons_append, List.nil_append, Option.getD_some]
  | none =>
    rcases h with h | ⟨hpacket, hactor⟩
    · exact absurd hkey h
    · simp only [hbar, List.append_assoc, List.cons_append, List.nil_append, Option.getD_none,
        List.isEmpty_iff, hpacket, hactor, Bool.or_eq_true, or_self, if_false]

theorem signature_ne_nil_iff :
    buildIdempotencySignature request ≠ [] ↔ Signed request := by
  constructor
  · intro hne
    by_contra hunsigned
    unfold Signed at hunsigned
    rw [not_or, not_not] at hunsigned
    refine hne ?_
    unfold buildIdempotencySignature
    rw [hunsigned.1]
    dsimp only
    rw [if_pos]
    simp only [Bool.or_eq_true, List.isEmpty_iff]
    by_contra hboth
    rw [not_or] at hboth
    exact hunsigned.2 hboth
  · intro h
    rw [signature_eq request h]
    simp

theorem splitOn_signature (h : Signed request) :
    (buildIdempotencySignature request).splitOn separator = pieces request := by
  rw [signature_eq request h]
  simp only [List.splitOn_append_cons_self, pieces, components, List.flatMap_cons,
    List.flatMap_nil, List.append_nil]

theorem signature_eq_iff (hfirst : Signed first)
    (hsecond : Signed second) :
    buildIdempotencySignature first = buildIdempotencySignature second ↔
      pieces first = pieces second := by
  rw [← splitOn_signature first hfirst, ← splitOn_signature second hsecond]
  constructor
  · intro h
    rw [h]
  · intro h
    have hjoined := congrArg [separator].intercalate h
    rwa [List.intercalate_splitOn, List.intercalate_splitOn] at hjoined

/-! ## Whose record answers -/

/-- The controller, with the request that made each record. -/
structure TracedAdmission where
  controller : AdmissionController
  creators : Table Bytes RuntimeDispatchRequest := ∅

namespace TracedAdmission

def step (traced : TracedAdmission) (call : AdmissionCall) :
    TracedAdmission × Option AccessAdmissionResult :=
  match call with
  | .admitRequest request now =>
    let (controller, result) := traced.controller.admitRequest request now
    let creators :=
      if result.admitted then traced.creators.insert (buildIdempotencySignature request) request
      else traced.creators
    ({ controller, creators }, some result)
  | .releaseTicket ticketRef =>
    ({ traced with controller := traced.controller.releaseTicket ticketRef }, none)
  | .recordCompletion ticketRef result =>
    ({ traced with controller := traced.controller.recordCompletion ticketRef result }, none)

/-- The request that made the record which answers this one with a conflict or a replay. -/
def answeredFrom (traced : TracedAdmission) (request : RuntimeDispatchRequest) (now : TimePoint) :
    Option RuntimeDispatchRequest :=
  let result := (traced.controller.admitRequest request now).2
  if result.conflictHit || result.replayHit then
    traced.creators.lookup (buildIdempotencySignature request)
  else none

/-- Every record has its creator, and the creators are those of their own signatures. -/
structure Sound (traced : TracedAdmission) : Prop where
  created : ∀ signature record,
    traced.controller.idempotencyRecords.lookup signature = some record →
    ∃ creator, traced.creators.lookup signature = some creator
  own : ∀ signature creator, traced.creators.lookup signature = some creator →
    buildIdempotencySignature creator = signature

variable (controller : AdmissionController) (traced : TracedAdmission)
  (config : AccessAdmissionView) (ticketRef : Bytes) (calls : List AdmissionCall)
  (request : RuntimeDispatchRequest) (now : TimePoint)

theorem releaseTicket_records (signature : Bytes)
    (record : IdempotencyRecord)
    (h : (controller.releaseTicket ticketRef).idempotencyRecords.lookup signature = some record) :
    controller.idempotencyRecords.lookup signature = some record := by
  unfold AdmissionController.releaseTicket at h
  split at h
  · exact h
  rename_i ticket _
  dsimp only at h
  split at h
  · exact h
  split at h
  · exact h
  · by_cases hsame : signature = ticket.signature
    · rw [hsame, AList.lookup_erase] at h
      cases h
    · rwa [AList.lookup_erase_ne hsame] at h

theorem recordCompletion_records
    (result : RuntimeDispatchResult) (signature : Bytes) (record : IdempotencyRecord)
    (h : (controller.recordCompletion ticketRef result).idempotencyRecords.lookup signature =
      some record) :
    ∃ before, controller.idempotencyRecords.lookup signature = some before := by
  unfold AdmissionController.recordCompletion at h
  split at h
  · exact ⟨record, h⟩
  rename_i ticket _
  dsimp only at h
  split at h
  · exact ⟨record, h⟩
  rename_i before hbefore
  by_cases hsame : signature = ticket.signature
  · exact ⟨before, hsame ▸ hbefore⟩
  · rw [AList.lookup_insert_ne hsame] at h
    exact ⟨record, h⟩

theorem sound_admitRequest (h : traced.Sound) : (traced.step (.admitRequest request now)).1.Sound := by
  have hpruned : ∀ signature record,
      (traced.controller.pruneExpiredRecords now).idempotencyRecords.lookup signature =
        some record → ∃ creator, traced.creators.lookup signature = some creator :=
    fun signature record hrecord =>
      h.created signature record (Table.lookup_of_lookup_keep _ _ _ _ hrecord)
  unfold step
  dsimp only
  rcases traced.controller.admitRequest_cases request now with
    ⟨-, heq⟩ | ⟨-, heq⟩ | ⟨existing, -, hexisting, heq⟩ | ⟨-, -, -, heq⟩
  · rw [heq]
    exact ⟨hpruned, h.own⟩
  · rw [heq]
    exact ⟨hpruned, h.own⟩
  · have hnot := checkIdempotency_not_admitted _ _ _ _ hexisting
    rw [heq]
    simp only [hnot, Bool.false_eq_true, if_false]
    exact ⟨hpruned, h.own⟩
  · rw [heq]
    simp only [admittedResult, if_true]
    constructor
    · intro signature record hrecord
      by_cases hsame : signature = buildIdempotencySignature request
      · exact ⟨request, by rw [hsame, AList.lookup_insert]⟩
      · rw [AList.lookup_insert_ne hsame]
        refine hpruned signature record ?_
        unfold AdmissionController.issued at hrecord
        dsimp only at hrecord
        rwa [AList.lookup_insert_ne hsame] at hrecord
    · intro signature creator hcreator
      by_cases hsame : signature = buildIdempotencySignature request
      · rw [hsame, AList.lookup_insert, Option.some.injEq] at hcreator
        rw [← hcreator, hsame]
      · rw [AList.lookup_insert_ne hsame] at hcreator
        exact h.own signature creator hcreator

theorem sound_step (call : AdmissionCall) (h : traced.Sound) :
    (traced.step call).1.Sound := by
  cases call with
  | admitRequest request now => exact sound_admitRequest traced request now h
  | releaseTicket ticketRef =>
    exact ⟨fun signature record hrecord =>
      h.created signature record (releaseTicket_records _ _ _ _ hrecord), h.own⟩
  | recordCompletion ticketRef result =>
    refine ⟨fun signature record hrecord => ?_, h.own⟩
    obtain ⟨before, hbefore⟩ := recordCompletion_records _ _ _ _ _ hrecord
    exact h.created signature before hbefore

/-- The traced state after some calls. -/
def after (config : AccessAdmissionView) (calls : List AdmissionCall) : TracedAdmission :=
  (run step { controller := { config } } calls).1

theorem sound_after :
    (after config calls).Sound := by
  refine invariant_run step Sound sound_step _ calls ⟨?_, ?_⟩
  · intro signature record hrecord
    simp at hrecord
  · intro signature creator hcreator
    simp at hcreator

/-- A conflict or a replay comes from a record whose creator has the same signature. -/
theorem answeredFrom_sound (creator : RuntimeDispatchRequest)
    (h : (after config calls).answeredFrom request now = some creator) :
    buildIdempotencySignature creator = buildIdempotencySignature request := by
  unfold answeredFrom at h
  dsimp only at h
  split at h
  · exact (sound_after config calls).own _ _ h
  · cases h

end TracedAdmission

/-! ## Crossing -/

/-- The requests differ in the entry, the protocol, the actor, or the kind of their key. -/
def Differ (first second : RuntimeDispatchRequest) : Prop :=
  first.packet.entryType ≠ second.packet.entryType ∨
    first.packet.protocolKind ≠ second.packet.protocolKind ∨
    first.subjectIdentity.actorRef ≠ second.subjectIdentity.actorRef ∨
    (explicitKey first).isSome ≠ (explicitKey second).isSome

/-- Where they differ and both have a signature, the signatures are different, and no calls
leave a record of the first that answers the second. -/
def NeverCrosses (first second : RuntimeDispatchRequest) : Prop :=
  Differ first second → buildIdempotencySignature first ≠ [] →
    buildIdempotencySignature second ≠ [] →
    buildIdempotencySignature first ≠ buildIdempotencySignature second ∧
      ∀ config calls now,
        (TracedAdmission.after config calls).answeredFrom second now ≠ some first

theorem pieces_ne_of_neverCrosses
    (h : NeverCrosses first second) (hdiffer : Differ first second) (hfirst : Signed first)
    (hsecond : Signed second) : pieces first ≠ pieces second := by
  unfold NeverCrosses at h
  simp only [signature_ne_nil_iff] at h
  intro hpieces
  have hsignature := (signature_eq_iff first second hfirst hsecond).mpr hpieces
  exact (h hdiffer hfirst hsecond).1 hsignature

theorem neverCrosses_of_pieces_ne
    (h : Differ first second → Signed first → Signed second → pieces first ≠ pieces second) :
    NeverCrosses first second := by
  unfold NeverCrosses
  simp only [signature_ne_nil_iff]
  intro hdiffer hfirst hsecond
  have hsignature : buildIdempotencySignature first ≠ buildIdempotencySignature second :=
    fun heq => h hdiffer hfirst hsecond ((signature_eq_iff first second hfirst hsecond).mp heq)
  exact ⟨hsignature, fun config calls now hanswered =>
    hsignature (TracedAdmission.answeredFrom_sound config calls second now first hanswered)⟩

/-- Two requests that differ never cross exactly when their texts, cut at every `|`, give
different pieces. -/
theorem never_crosses_iff (first second : RuntimeDispatchRequest) :
    NeverCrosses first second ↔
      (Differ first second → Signed first → Signed second → pieces first ≠ pieces second) := by
  constructor
  · exact pieces_ne_of_neverCrosses first second
  · exact neverCrosses_of_pieces_ne first second

/-- The `|` of an actor moves into its key: two actors, one signature. -/
theorem actors_cross : ¬ ∀ first second, NeverCrosses first second := by
  intro h
  let first : RuntimeDispatchRequest :=
    { subjectIdentity := { actorRef := str "a|b" }
      requestContext := AList.singleton (str "idempotency_key") (str "c") }
  let second : RuntimeDispatchRequest :=
    { subjectIdentity := { actorRef := str "a" }
      requestContext := AList.singleton (str "idempotency_key") (str "b|c") }
  have hdiffer : Differ first second := Or.inr (Or.inr (Or.inl (by decide)))
  exact (h first second hdiffer (by decide +kernel) (by decide +kernel)).1 (by decide +kernel)

end Dasall.Access
