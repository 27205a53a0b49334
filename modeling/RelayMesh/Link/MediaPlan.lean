import RelayMesh.Link.Transceiver
import RelayMesh.Link.Candidate
import RelayMesh.Link.State
import RelayMesh.Sdp.Codecs

/-!
# Media plans

The plan of a connection says which transceivers it has and on which codecs
the two sides have agreed.  It changes when this side adds a track and when
descriptions are exchanged:

* `MediaPlan.accept` takes a description of the other side.  The first section
  about a kind of media settles the codecs of that kind, and every section of
  an offer is given a transceiver.
* `MediaPlan.offer` and `MediaPlan.answer` make a description of this side.
* `MediaPlan.startSending` sends the tracks of which the other side knows.

An operation can fail half way: what it has changed until then stays, so each
returns the plan beside its result.  A track never fails to be added
(`MediaPlan.addTrack`), by the same rule for every engine; no theorem depends
on where it is put.
-/

namespace RelayMesh

/-- What a connection knows about its media. -/
structure MediaPlan where
  transceivers : List Transceiver := []
  /-- The codecs for audio that the two sides share, once the other side has listed its own. -/
  audioCodecs : Option (List CodecParameters) := none
  /-- The codecs for video that the two sides share, once the other side has listed its own. -/
  videoCodecs : Option (List CodecParameters) := none
  /-- The greatest number that an identifier of a section may have. -/
  greatestMid : Int := -1
deriving Repr, DecidableEq

namespace MediaPlan

/-! ## Codecs -/

/-- The codecs that the two sides share, once the other side has listed its own. -/
def shared? (plan : MediaPlan) : MediaKind → Option (List CodecParameters)
  | .audio => plan.audioCodecs
  | .video => plan.videoCodecs

/-- The codecs to describe: those of this side until the other side has listed its own. -/
def codecs (plan : MediaPlan) (kind : MediaKind) : List CodecParameters :=
  (plan.shared? kind).getD kind.codecs

/-- Settles the codecs of a kind of media. -/
def settle (plan : MediaPlan) (kind : MediaKind) (codecs : List CodecParameters) : MediaPlan :=
  match kind with
  | .audio => { plan with audioCodecs := some codecs }
  | .video => { plan with videoCodecs := some codecs }

/-- The kind of media of a section; a section may be about something else. -/
def kindOf? (part : Sdp.Section) : Option MediaKind :=
  MediaKind.all.find? (fun kind => kind.name = part.medium)

/-- Settles the codecs of the kind of media of a section, unless they are settled, and says whether
the section could be read. -/
def agree (plan : MediaPlan) (part : Sdp.Section) : Bool × MediaPlan :=
  match (kindOf? part).filter (fun kind => (plan.shared? kind).isNone) with
  | none => (true, plan)
  | some kind =>
    match part.codecs?.bind (Shared.ofList? kind.codecs) with
    | none => (false, plan.settle kind [])
    | some shared =>
      (shared.codecs.isEmpty || part.hasReadableExtensions, plan.settle kind shared.codecs)

/-- Settles codecs section by section, up to one that cannot be read. -/
def agreeAll (plan : MediaPlan) : List Sdp.Section → Bool × MediaPlan
  | [] => (true, plan)
  | part :: rest =>
    match plan.agree part with
    | (true, plan) => plan.agreeAll rest
    | failed => failed

/-! ## Transceivers -/

/-- Changes the transceiver at a position. -/
def modify (plan : MediaPlan) (position : Nat) (f : Transceiver → Transceiver) : MediaPlan :=
  { plan with transceivers := plan.transceivers.modify position f }

/-- Adds a transceiver. -/
def insert (plan : MediaPlan) (transceiver : Transceiver) : MediaPlan :=
  { plan with transceivers := plan.transceivers ++ [transceiver] }

/-- Adds a track, to a transceiver that is free for it or to a new one. -/
def addTrack (plan : MediaPlan) (track : Track) : MediaPlan :=
  let kind := track.codec.media
  match plan.transceivers.findIdx? (fun transceiver =>
    transceiver.kind = kind && transceiver.isFree) with
  | some position => plan.modify position (Transceiver.withTrack · track)
  | none => plan.insert { kind, direction := .both, track := some track }

/-- The positions of all transceivers. -/
def positions (plan : MediaPlan) : List Nat :=
  List.range plan.transceivers.length

/-- The first of some positions at which there is a transceiver of a given sort. -/
def find? (plan : MediaPlan) (positions : List Nat) (p : Transceiver → Bool) : Option Nat :=
  positions.find? (fun position => plan.transceivers[position]?.any p)

/-- The first of some positions with the transceiver of an identifier. -/
def findMid? (plan : MediaPlan) (positions : List Nat) (mid : String) : Option Nat :=
  plan.find? positions (fun transceiver => transceiver.mid = some mid)

/-- The first of some positions with a transceiver that can be given to a section: it has that
kind of media, no identifier yet, and the best direction. -/
def findPartner? (plan : MediaPlan) (positions : List Nat) (kind : MediaKind)
    (remote : Direction) : Option Nat :=
  remote.partners.findSome? (fun direction =>
    plan.find? positions (fun transceiver =>
      transceiver.mid.isNone && transceiver.kind = kind && transceiver.direction = direction))

/-! ## Sections of the other side -/

/-- The identifier that a section gives. -/
def midOf? (part : Sdp.Section) : Option String :=
  Sdp.value? part.attributes "mid"

/-- The kind of media and the direction of a section that is about media. -/
def flowOf? (part : Sdp.Section) : Option (MediaKind × Direction) :=
  match kindOf? part, Direction.ofSection? part with
  | some kind, some direction => some (kind, direction)
  | _, _ => none

/-- Gives the sections of an offer their transceivers, which are looked for at the positions that
are left; `none` when an identifier is empty. -/
def place? (plan : MediaPlan) (positions : List Nat) : List Sdp.Section → Option MediaPlan
  | [] => some plan
  | part :: rest =>
    match midOf? part, flowOf? part with
    | none, _ => plan.place? positions rest
    | some mid, flow =>
      if mid.isEmpty then none
      else
        match flow with
        | none => plan.place? positions rest
        | some (kind, direction) =>
          match (plan.findMid? positions mid).or (plan.findPartner? positions kind direction) with
          | some position =>
            let plan := plan.modify position (Transceiver.withMid · mid)
            plan.place? (positions.erase position) rest
          | none =>
            let plan := plan.insert { kind, direction := direction.answering, mid := some mid }
            plan.place? positions rest

/-- Whether no section has an empty identifier. -/
def hasFullMids (description : Sdp) : Bool :=
  description.sections.all (fun part => midOf? part ≠ some "")

/-! ## Sending -/

/-- Whether the track of a transceiver can be sent in one of some codecs. -/
def canSend (track : Track) (codecs : List CodecParameters) : Bool :=
  codecs.any track.codec.parameters.sameName

/-- Whether a transceiver has to start sending. -/
def isDue (transceiver : Transceiver) : Bool :=
  transceiver.announced && !transceiver.sending && transceiver.track.isSome

/-- Starts to send the tracks at some positions, up to one that the two sides share no codec for. -/
def startAt (plan : MediaPlan) : List Nat → Bool × MediaPlan
  | [] => (true, plan)
  | position :: rest =>
    match (plan.transceivers[position]?.filter isDue).bind Transceiver.track with
    | none => plan.startAt rest
    | some track =>
      if canSend track (plan.codecs track.codec.media) then
        let plan := plan.modify position (fun transceiver => { transceiver with sending := true })
        plan.startAt rest
      else (false, plan)

/-- Starts to send every track of which the other side knows. -/
def startSending (plan : MediaPlan) : Bool × MediaPlan :=
  plan.startAt plan.positions

/-! ## Descriptions of the other side -/

/-- Whether some values are there and all the same. -/
def areOne (values : List String) : Bool :=
  match values with
  | [] => false
  | first :: rest => rest.all (· = first)

/-- Whether a description says how its side can be reached: the credentials for it, and candidates
that can be read. -/
def isReachable (description : Sdp) : Bool :=
  areOne (description.values "ice-ufrag") && areOne (description.values "ice-pwd") &&
    description.sections.all (fun part =>
      (part.attributes.filter (fun entry => entry.name = "candidate")).all (fun entry =>
        entry.value.all (fun text => Candidate.isComplete text)))

/-- Whether a description says by which certificate its side is known: the name of a digest, a
space and the digest. -/
def isIdentified (description : Sdp) : Bool :=
  let fingerprints := description.values "fingerprint"
  areOne fingerprints && (fingerprints.headD "").toList.count ' ' = 1

/-- Takes a description of the other side and says whether it did.  The certificate of the other
side is of interest only in the first exchange. -/
def accept (plan : MediaPlan) (first : Bool) (kind : DescriptionKind) (description : Sdp) :
    Bool × MediaPlan :=
  match plan.agreeAll description.sections with
  | (false, plan) => (false, plan)
  | (true, plan) =>
    let placed :=
      if kind = .answer then if hasFullMids description then some plan else none
      else plan.place? plan.positions description.sections
    match placed with
    | none => (false, plan)
    | some plan =>
      if isReachable description && (!first || isIdentified description) then
        if kind = .answer then plan.startSending else (true, plan)
      else (false, plan)

/-! ## Descriptions of this side -/

/-- What a section of this side is about. -/
inductive Topic where
  /-- The transceiver at a position. -/
  | transceiver (position : Nat)
  /-- Data, in the section of an identifier. -/
  | data (mid : String)
deriving Repr, DecidableEq

/-- The topics of the sections that reply to sections of the other side, and the positions that are
left; `none` when a section has no identifier or one that is not known. -/
def replies? (plan : MediaPlan) (positions : List Nat) :
    List Sdp.Section → Option (List Topic × List Nat)
  | [] => some ([], positions)
  | part :: rest => do
    let mid ← (midOf? part).filter (fun mid => !mid.isEmpty)
    if part.medium = "application" then
      let (topics, left) ← plan.replies? positions rest
      pure (.data mid :: topics, left)
    else if (flowOf? part).isNone then plan.replies? positions rest
    else
      let position ← plan.findMid? positions mid
      let (topics, left) ← plan.replies? (positions.erase position) rest
      pure (.transceiver position :: topics, left)

/-- Notes that the other side is told of the transceivers of some sections. -/
def announce (plan : MediaPlan) (topics : List Topic) : MediaPlan :=
  topics.foldl (fun plan topic =>
    match topic with
    | .transceiver position =>
      plan.modify position (fun transceiver => { transceiver with announced := true })
    | .data _ => plan) plan

/-- The section about a topic. -/
def describe? (plan : MediaPlan) : Topic → Option Sdp.Section
  | .transceiver position =>
    plan.transceivers[position]?.bind (fun transceiver =>
      transceiver.section? (plan.codecs transceiver.kind))
  | .data mid =>
    some
      { medium := "application", port := "9", protocol := "UDP/DTLS/SCTP"
        formats := ["webrtc-datachannel"], attributes := [⟨"mid", some mid⟩] }

/-- The description with sections about some topics. -/
def write? (plan : MediaPlan) (topics : List Topic) : Option Sdp :=
  (topics.mapM plan.describe?).map (fun sections => { sections })

/-- Raises the greatest number to those that identifiers of the other side have. -/
def raiseMid (plan : MediaPlan) (description : Sdp) : MediaPlan :=
  let numbers := description.sections.filterMap (fun part =>
    (midOf? part).bind (fun mid => Text.readNatural (Nat.pow 2 63) mid.toList))
  { plan with
    greatestMid :=
      numbers.foldl (fun (greatest : Int) (n : Nat) => max greatest n) plan.greatestMid }

/-- Gives an identifier to the transceivers at some positions that have none. -/
def numberAt (plan : MediaPlan) : List Nat → MediaPlan
  | [] => plan
  | position :: rest =>
    if plan.transceivers[position]?.any (fun transceiver => transceiver.mid.isNone) then
      let number := plan.greatestMid + 1
      { plan.modify position (Transceiver.withMid · (toString number)) with
        greatestMid := number }.numberAt rest
    else plan.numberAt rest

/-- Whether no transceiver would be turned down. -/
def offersAll (plan : MediaPlan) : Bool :=
  plan.transceivers.all (fun transceiver => !(plan.codecs transceiver.kind).isEmpty)

/-- Makes an offer.  After an exchange its sections keep to those of the latest description of the
other side, and further transceivers follow. -/
def offer (plan : MediaPlan) (settled : Option Sdp) : Option Sdp × MediaPlan :=
  let plan := ((settled.map plan.raiseMid).getD plan).numberAt plan.positions
  match plan.replies? plan.positions ((settled.map Sdp.sections).getD []) with
  | none => (none, plan)
  | some (topics, left) =>
    let topics := topics ++ left.map .transceiver
    let plan := plan.announce topics
    (if plan.offersAll then plan.write? topics else none, plan)

/-- Answers an offer. -/
def answer (plan : MediaPlan) (offer : Sdp) : Option Sdp × MediaPlan :=
  match plan.replies? plan.positions offer.sections with
  | none => (none, plan)
  | some (topics, _) =>
    let plan := plan.announce topics
    (plan.write? topics, plan)

end MediaPlan

end RelayMesh
