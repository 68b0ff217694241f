import SparkRsi.Shared.Codec
import SparkRsi.Shared.Float64
import SparkRsi.Shared.Results

set_option autoImplicit false

namespace SparkRsi.Dual

open Shared

def FORMAT_VERSION : UInt8 := 1
def MAX_RESOURCES : UInt32 := 32

def DOMAIN_RESOURCE : String := "omega.dual.resource.v1"
def DOMAIN_CONSTRAINT : String := "omega.dual.constraint.v1"
def DOMAIN_CONTROLLER : String := "omega.dual.controller.v1"
def DOMAIN_PRICE_VECTOR : String := "omega.dual.pricevec.v1"

abbrev Digest32 := { bytes : Bytes // bytes.length = 32 }

def digestIsZero (d : Digest32) : Bool := d.val.all (· == 0)

def zeroDigest : Digest32 := ⟨List.replicate 32 0, List.length_replicate⟩

def domainDigest (hash : HexHash) (domain : String) (encoding : Bytes) : Digest32 :=
  ⟨hash.digest (utf8 domain ++ 0 :: encoding), hash.length_digest _⟩

inductive Kind where
  | resource
  | constraint
  | controller
  | priceVector

def Kind.code : Kind → UInt8
  | resource => 1
  | constraint => 2
  | controller => 3
  | priceVector => 4

inductive DualUnit where
  | ps
  | pj
  | bytes
  | bytesPerS
  | kvBlocks
  | ppmOccupancy
  | nsVerify
  | nsSynth
  | ns
  | watt
  | wattPerS
  | milliCelsius
  | milliCelsiusPerS
  | dimensionless
  | log2Ps
  deriving DecidableEq

def DualUnit.code : DualUnit → UInt32
  | ps => 1
  | pj => 2
  | bytes => 3
  | bytesPerS => 4
  | kvBlocks => 5
  | ppmOccupancy => 6
  | nsVerify => 7
  | nsSynth => 8
  | ns => 9
  | watt => 10
  | wattPerS => 11
  | milliCelsius => 12
  | milliCelsiusPerS => 13
  | dimensionless => 14
  | log2Ps => 15

def DualUnit.fromU32 (v : UInt32) : Option DualUnit :=
  match v.toNat with
  | 1 => some ps
  | 2 => some pj
  | 3 => some bytes
  | 4 => some bytesPerS
  | 5 => some kvBlocks
  | 6 => some ppmOccupancy
  | 7 => some nsVerify
  | 8 => some nsSynth
  | 9 => some ns
  | 10 => some watt
  | 11 => some wattPerS
  | 12 => some milliCelsius
  | 13 => some milliCelsiusPerS
  | 14 => some dimensionless
  | 15 => some log2Ps
  | _ => none

inductive DualClass where
  | capacity
  | soft
  deriving DecidableEq

def DualClass.code : DualClass → UInt32
  | capacity => 2
  | soft => 3

def DualClass.fromU32 (v : UInt32) : Option DualClass :=
  match v.toNat with
  | 2 => some capacity
  | 3 => some soft
  | _ => none

inductive EstimateKind where
  | measured
  | estimated
  | predicted
  deriving DecidableEq

def EstimateKind.code : EstimateKind → UInt32
  | measured => 1
  | estimated => 2
  | predicted => 3

def EstimateKind.fromU32 (v : UInt32) : Option EstimateKind :=
  match v.toNat with
  | 1 => some measured
  | 2 => some estimated
  | 3 => some predicted
  | _ => none

inductive LambdaState where
  | fresh
  | stale
  | frozen
  | uncalibrated
  | refused
  deriving DecidableEq

def LambdaState.code : LambdaState → UInt32
  | fresh => 1
  | stale => 2
  | frozen => 3
  | uncalibrated => 4
  | refused => 5

def LambdaState.fromU32 (v : UInt32) : Option LambdaState :=
  match v.toNat with
  | 1 => some fresh
  | 2 => some stale
  | 3 => some frozen
  | 4 => some uncalibrated
  | 5 => some refused
  | _ => none

inductive Refusal where
  | nonFinite
  | unit
  | class_
  | scale
  | range
  | kind
  | encoding
  | resource
  | digest
  | generation
  | calibration
  deriving DecidableEq

structure Resource where
  resourceId : UInt32
  unit : DualUnit
  scale : Float64
  contract : Digest32
  deriving DecidableEq

structure ConstraintState where
  resourceId : UInt32
  unit : DualUnit
  class_ : DualClass
  budget : Float64
  budgetContract : Digest32
  observationRef : Digest32
  estimateRef : Digest32
  estimateKind : EstimateKind
  estimate : Float64
  uncertainty : Float64
  calibrationRef : Digest32
  lambda : Float64
  lambdaState : LambdaState
  controllerId : Digest32
  generation : UInt64
  tick : UInt64
  evidenceRoot : Digest32
  parent : Digest32
  deriving DecidableEq

structure Controller where
  eta : Float64
  rho : Float64
  kSigma : Float64
  maxAge : UInt64
  cadence : UInt64
  entries : List (UInt32 × Float64)
  deriving DecidableEq

structure PriceVector where
  generation : UInt64
  context : Digest32
  entries : List (UInt32 × Digest32)
  deriving DecidableEq

inductive Panic where
  | outOfRange
  | overflow

def addUsize (a b : Nat) : Except Panic Nat := if a + b < 2 ^ 64 then .ok (a + b) else .error .overflow

structure Reader where
  p : Bytes
  pos : Nat
  st : Option Refusal

abbrev Read := StateT Reader (Except Panic)

namespace Reader

def new (p : Bytes) : Reader := ⟨p, 0, none⟩

/-- The first failure stays. -/
def fail (r : Refusal) : Read Unit := fun s => .ok ((), if s.st.isNone then { s with st := some r } else s)

def need (n : Nat) : Read Bool := do
  let s ← get
  if s.st.isSome then return false
  else
    let stop ← (addUsize s.pos n : Except Panic Nat)
    if stop > s.p.length then
      fail .encoding
      return false
    else return true

def index : Read UInt8 := do
  let s ← get
  match s.p[s.pos]? with
  | none => throw .outOfRange
  | some v =>
    let stop ← (addUsize s.pos 1 : Except Panic Nat)
    set { s with pos := stop }
    return v

def slice (n : Nat) : Read { bytes : Bytes // bytes.length = n } := do
  let s ← get
  let stop ← (addUsize s.pos n : Except Panic Nat)
  if inside : s.pos + n ≤ s.p.length then
    set { s with pos := stop }
    return ⟨(s.p.drop s.pos).take n, by rw [List.length_take, List.length_drop]; omega⟩
  else throw .outOfRange

def u8 : Read UInt8 := do
  if ← need 1 then index else return 0

def u32 : Read UInt32 := do
  if ← need 4 then
    let b ← slice 4
    return UInt32.ofNat (Codec.natOfLe b.val)
  else return 0

def u64 : Read UInt64 := do
  if ← need 8 then
    let b ← slice 8
    return UInt64.ofNat (Codec.natOfLe b.val)
  else return 0

def f64 : Read Float64 := do
  let bits ← u64
  return ⟨bits⟩

def dig : Read Digest32 := do
  if ← need 32 then slice 32 else return zeroDigest

def hdr (want : Kind) : Read Unit := do
  let k ← u8
  let v ← u8
  let s ← get
  if s.st.isSome then return ()
  else if k ≠ want.code then fail .kind
  else if v ≠ FORMAT_VERSION then fail .encoding

def end_ (s : Reader) : Except Refusal Unit :=
  match s.st with
  | some r => .error r
  | none => refuseIf (s.pos ≠ s.p.length) .encoding

end Reader

namespace Writer

def u8 (v : UInt8) : Bytes := [v]

def u32 (v : UInt32) : Bytes := leBytes 4 v.toNat

def u64 (v : UInt64) : Bytes := u64Le v

def f64 (d : Float64) : Bytes := u64 (if ¬d.equal .zero then d.bits else 0)

def dig (d : Digest32) : Bytes := d.val

def hdr (k : Kind) : Bytes := u8 k.code ++ u8 FORMAT_VERSION

end Writer

def idsAscending {β : Type} (entries : List (UInt32 × β)) : Bool :=
  (entries.zip entries.tail).all fun w => w.2.1 > w.1.1

structure RawConstraint where
  resourceId : UInt32
  unit : UInt32
  cls : UInt32
  budget : Float64
  budgetContract : Digest32
  observationRef : Digest32
  estimateRef : Digest32
  estimateKind : UInt32
  estimate : Float64
  uncertainty : Float64
  calibrationRef : Digest32
  lambda : Float64
  lambdaState : UInt32
  controllerId : Digest32
  generation : UInt64
  tick : UInt64
  evidenceRoot : Digest32
  parent : Digest32

def RawConstraint.check (self : RawConstraint) : Except Refusal ConstraintState := do
  let unit ← okOr .unit (DualUnit.fromU32 self.unit)
  let class_ ← okOr .class_ (DualClass.fromU32 self.cls)
  refuseIf (¬(self.budget.isFinite ∧ self.estimate.isFinite ∧ self.uncertainty.isFinite ∧ self.lambda.isFinite))
    .nonFinite
  refuseIf (self.uncertainty.less .zero ∨ self.lambda.less .zero) .range
  let estimateKind ← okOr .kind (EstimateKind.fromU32 self.estimateKind)
  let lambdaState ← okOr .range (LambdaState.fromU32 self.lambdaState)
  refuseIf (digestIsZero self.budgetContract ∨ digestIsZero self.estimateRef ∨ digestIsZero self.controllerId ∨
    digestIsZero self.evidenceRoot) .digest
  refuseIf (estimateKind = .measured ∧ digestIsZero self.observationRef) .digest
  refuseIf (digestIsZero self.calibrationRef ∧ lambdaState = .fresh) .calibration
  refuseIf ((self.tick == 0) ≠ digestIsZero self.parent) .digest
  return {
    resourceId := self.resourceId
    unit
    class_
    budget := self.budget
    budgetContract := self.budgetContract
    observationRef := self.observationRef
    estimateRef := self.estimateRef
    estimateKind
    estimate := self.estimate
    uncertainty := self.uncertainty
    calibrationRef := self.calibrationRef
    lambda := self.lambda
    lambdaState
    controllerId := self.controllerId
    generation := self.generation
    tick := self.tick
    evidenceRoot := self.evidenceRoot
    parent := self.parent }

def checkResource (resourceId unit : UInt32) (scale : Float64) (contract : Digest32) :
    Except Refusal Resource := do
  let unit ← okOr .unit (DualUnit.fromU32 unit)
  refuseIf (¬scale.isFinite) .nonFinite
  refuseIf (scale.atMost .zero) .scale
  refuseIf (digestIsZero contract) .digest
  return { resourceId, unit, scale, contract }

def checkController (c : Controller) : Except Refusal Unit := do
  refuseIf (¬(c.eta.isFinite ∧ c.rho.isFinite ∧ c.kSigma.isFinite)) .nonFinite
  refuseIf (c.eta.less .zero ∨ c.rho.less .zero ∨ Float64.one.less c.rho ∨ c.kSigma.less .zero) .range
  refuseIf (c.maxAge = 0 ∨ c.cadence = 0) .range
  refuseIf (c.entries = [] ∨ c.entries.length > MAX_RESOURCES.toNat) .range
  refuseIf (¬idsAscending c.entries) .resource
  c.entries.forM fun entry => do
    refuseIf (¬entry.2.isFinite) .nonFinite
    refuseIf (entry.2.atMost .zero) .range

def checkPriceVector (v : PriceVector) : Except Refusal Unit := do
  refuseIf (digestIsZero v.context) .digest
  refuseIf (v.entries = [] ∨ v.entries.length > MAX_RESOURCES.toNat) .range
  refuseIf (¬idsAscending v.entries) .resource
  v.entries.forM fun entry => refuseIf (digestIsZero entry.2) .digest

section Decoding

variable {α β γ : Type}

def decodeFixed (read : Read α) (check : α → Except Refusal γ) (buf : Bytes) :
    Except Panic (Except Refusal γ) := do
  let (raw, r) ← read.run (.new buf)
  return do
    r.end_
    check raw

def readEntries (value : Read β) : Nat → Read (List (UInt32 × β))
  | 0 => return []
  | n + 1 => do
    let id ← Reader.u32
    let v ← value
    let others ← readEntries value n
    return (id, v) :: others

def decodeCounted (head : Read (α × UInt32)) (value : Read β)
    (check : α → List (UInt32 × β) → Except Refusal γ) (buf : Bytes) : Except Panic (Except Refusal γ) := do
  let ((fields, n), r) ← head.run (.new buf)
  match r.st with
  | some st => return .error st
  | none =>
    if n = 0 ∨ n > MAX_RESOURCES then return .error .range
    else
      let (entries, r) ← (readEntries value n.toNat).run r
      return do
        r.end_
        check fields entries

end Decoding

def readResource : Read (UInt32 × UInt32 × Float64 × Digest32) := do
  Reader.hdr .resource
  let resourceId ← Reader.u32
  let unit ← Reader.u32
  let scale ← Reader.f64
  let contract ← Reader.dig
  return (resourceId, unit, scale, contract)

def decodeResource : Bytes → Except Panic (Except Refusal Resource) :=
  decodeFixed readResource fun (resourceId, unit, scale, contract) => checkResource resourceId unit scale contract

def encodeResource (x : Resource) : Bytes :=
  Writer.hdr .resource ++ Writer.u32 x.resourceId ++ Writer.u32 x.unit.code ++ Writer.f64 x.scale ++
    Writer.dig x.contract

def readConstraint : Read RawConstraint := do
  Reader.hdr .constraint
  let resourceId ← Reader.u32
  let unit ← Reader.u32
  let cls ← Reader.u32
  let budget ← Reader.f64
  let budgetContract ← Reader.dig
  let observationRef ← Reader.dig
  let estimateRef ← Reader.dig
  let estimateKind ← Reader.u32
  let estimate ← Reader.f64
  let uncertainty ← Reader.f64
  let calibrationRef ← Reader.dig
  let lambda ← Reader.f64
  let lambdaState ← Reader.u32
  let controllerId ← Reader.dig
  let generation ← Reader.u64
  let tick ← Reader.u64
  let evidenceRoot ← Reader.dig
  let parent ← Reader.dig
  return { resourceId, unit, cls, budget, budgetContract, observationRef, estimateRef, estimateKind, estimate,
           uncertainty, calibrationRef, lambda, lambdaState, controllerId, generation, tick, evidenceRoot, parent }

def decodeConstraint : Bytes → Except Panic (Except Refusal ConstraintState) :=
  decodeFixed readConstraint RawConstraint.check

def encodeConstraint (s : ConstraintState) : Bytes :=
  Writer.hdr .constraint ++ Writer.u32 s.resourceId ++ Writer.u32 s.unit.code ++ Writer.u32 s.class_.code ++
    Writer.f64 s.budget ++ Writer.dig s.budgetContract ++ Writer.dig s.observationRef ++ Writer.dig s.estimateRef ++
    Writer.u32 s.estimateKind.code ++ Writer.f64 s.estimate ++ Writer.f64 s.uncertainty ++
    Writer.dig s.calibrationRef ++ Writer.f64 s.lambda ++ Writer.u32 s.lambdaState.code ++ Writer.dig s.controllerId ++
    Writer.u64 s.generation ++ Writer.u64 s.tick ++ Writer.dig s.evidenceRoot ++ Writer.dig s.parent

def readController : Read ((Float64 × Float64 × Float64 × UInt64 × UInt64) × UInt32) := do
  Reader.hdr .controller
  let eta ← Reader.f64
  let rho ← Reader.f64
  let kSigma ← Reader.f64
  let maxAge ← Reader.u64
  let cadence ← Reader.u64
  let n ← Reader.u32
  return ((eta, rho, kSigma, maxAge, cadence), n)

def controllerOf : Float64 × Float64 × Float64 × UInt64 × UInt64 → List (UInt32 × Float64) →
      Except Refusal Controller
  | (eta, rho, kSigma, maxAge, cadence), entries => do
    let c : Controller := { eta, rho, kSigma, maxAge, cadence, entries }
    checkController c
    return c

def decodeController : Bytes → Except Panic (Except Refusal Controller) :=
  decodeCounted readController Reader.f64 controllerOf

def encodeController (c : Controller) : Bytes :=
  Writer.hdr .controller ++ Writer.f64 c.eta ++ Writer.f64 c.rho ++ Writer.f64 c.kSigma ++ Writer.u64 c.maxAge ++
    Writer.u64 c.cadence ++ Writer.u32 (UInt32.ofNat c.entries.length) ++
    c.entries.flatMap fun entry => Writer.u32 entry.1 ++ Writer.f64 entry.2

def readPriceVector : Read ((UInt64 × Digest32) × UInt32) := do
  Reader.hdr .priceVector
  let generation ← Reader.u64
  let context ← Reader.dig
  let n ← Reader.u32
  return ((generation, context), n)

def priceVectorOf : UInt64 × Digest32 → List (UInt32 × Digest32) → Except Refusal PriceVector
  | (generation, context), entries => do
    let v : PriceVector := { generation, context, entries }
    checkPriceVector v
    return v

def decodePriceVector : Bytes → Except Panic (Except Refusal PriceVector) :=
  decodeCounted readPriceVector Reader.dig priceVectorOf

def encodePriceVector (v : PriceVector) : Bytes :=
  Writer.hdr .priceVector ++ Writer.u64 v.generation ++ Writer.dig v.context ++
    Writer.u32 (UInt32.ofNat v.entries.length) ++
    v.entries.flatMap fun entry => Writer.u32 entry.1 ++ Writer.dig entry.2

section Identity

variable (hash : HexHash)

def digestResource (x : Resource) : Digest32 := domainDigest hash DOMAIN_RESOURCE (encodeResource x)

def digestConstraint (s : ConstraintState) : Digest32 :=
  domainDigest hash DOMAIN_CONSTRAINT (encodeConstraint s)

def digestController (c : Controller) : Digest32 := domainDigest hash DOMAIN_CONTROLLER (encodeController c)

def digestPriceVector (v : PriceVector) : Digest32 :=
  domainDigest hash DOMAIN_PRICE_VECTOR (encodePriceVector v)

inductive VerifyError where
  | refused (r : Refusal)
  | digestMismatch (expected actual : Digest32)

def actualDigest (kind : Kind) (bytes : Bytes) : Except Panic (Except Refusal Digest32) :=
  match kind with
  | .resource => do return (← decodeResource bytes).map (digestResource hash)
  | .constraint => do return (← decodeConstraint bytes).map (digestConstraint hash)
  | .controller => do return (← decodeController bytes).map (digestController hash)
  | .priceVector => do return (← decodePriceVector bytes).map (digestPriceVector hash)

def verifyDigest (kind : Kind) (bytes : Bytes) (expected : Digest32) :
    Except Panic (Except VerifyError Unit) := do
  let actual ← actualDigest hash kind bytes
  return do
    let actual ← actual.mapError .refused
    refuseIf (actual ≠ expected) (.digestMismatch expected actual)

end Identity

end SparkRsi.Dual
