import SparkRsi.Dual.Records

set_option autoImplicit false

namespace SparkRsi.Dual

open Shared

variable {α β γ : Type}

/-- From a position with room to move on, the reader takes what the parser takes, and fails where the parser
does. After a failure it stays where it is. -/
structure Parses (m : Read α) (size : Nat) (parse : Bytes → Option (α × Bytes)) : Prop where
  stuck : ∀ s : Reader, s.st ≠ none → ∃ a, m.run s = .ok (a, s)
  accepts : ∀ s a rest, s.st = none → s.pos ≤ s.p.length → s.pos + size < 2 ^ 64 →
    parse (s.p.drop s.pos) = some (a, rest) →
      ∃ pos, m.run s = .ok (a, { s with pos }) ∧ s.p.drop pos = rest ∧ pos ≤ s.p.length ∧ pos ≤ s.pos + size
  refuses : ∀ s, s.st = none → s.pos ≤ s.p.length → s.pos + size < 2 ^ 64 → parse (s.p.drop s.pos) = none →
    ∃ a s', m.run s = .ok (a, s') ∧ s'.st ≠ none

namespace Parses

theorem pure_ (a : α) : Parses (pure a) 0 fun tokens => some (a, tokens) := by
  constructor
  case stuck => exact fun s _ => ⟨a, rfl⟩
  case accepts =>
    intro s b rest _ inside _ read
    cases read
    exact ⟨s.pos, rfl, rfl, inside, le_rfl⟩
  case refuses =>
    intro s _ _ _ read
    cases read

theorem bind_ {m : Read α} {k : α → Read β} {size more : Nat} {parse : Bytes → Option (α × Bytes)}
    {parse' : α → Bytes → Option (β × Bytes)} (first : Parses m size parse)
    (second : ∀ a, Parses (k a) more (parse' a)) :
    Parses (m >>= k) (size + more) fun tokens => (parse tokens).bind fun read => parse' read.1 read.2 := by
  constructor
  case stuck =>
    intro s failed
    obtain ⟨a, ran⟩ := first.stuck s failed
    obtain ⟨b, ran'⟩ := (second a).stuck s failed
    exact ⟨b, by rw [StateT.run_bind, ran]; exact ran'⟩
  case accepts =>
    intro s b rest going inside room read
    rw [Option.bind_eq_some_iff] at read
    obtain ⟨⟨a, behind⟩, front, back⟩ := read
    obtain ⟨pos, ran, here, within, near⟩ := first.accepts s a behind going inside (by omega) front
    have next := (second a).accepts { s with pos } b rest going within (by dsimp only; omega) (by rw [here]; exact back)
    obtain ⟨pos', ran', there, within', near'⟩ := next
    refine ⟨pos', ?_, there, within', by dsimp only at near'; omega⟩
    rw [StateT.run_bind, ran]
    exact ran'
  case refuses =>
    intro s going inside room read
    cases front : parse (s.p.drop s.pos) with
    | none =>
      obtain ⟨a, s', ran, failed⟩ := first.refuses s going inside (by omega) front
      obtain ⟨b, ran'⟩ := (second a).stuck s' failed
      exact ⟨b, s', by rw [StateT.run_bind, ran]; exact ran', failed⟩
    | some pair =>
      obtain ⟨a, behind⟩ := pair
      rw [front] at read
      obtain ⟨pos, ran, here, within, near⟩ := first.accepts s a behind going inside (by omega) front
      have next := (second a).refuses { s with pos } going within (by dsimp only; omega) (by rw [here]; exact read)
      obtain ⟨b, s', ran', failed⟩ := next
      exact ⟨b, s', by rw [StateT.run_bind, ran]; exact ran', failed⟩

theorem map_ {m : Read α} {size : Nat} {parse : Bytes → Option (α × Bytes)} (reads : Parses m size parse)
    (f : α → β) :
    Parses (do let a ← m; return f a) size fun tokens => (parse tokens).bind fun read => some (f read.1, read.2) :=
  reads.bind_ fun a => pure_ (f a)

theorem congr {m : Read α} {size : Nat} {parse parse' : Bytes → Option (α × Bytes)}
    (reads : Parses m size parse) (same : ∀ tokens, parse tokens = parse' tokens) : Parses m size parse' :=
  funext same ▸ reads

end Parses

section Fields

open Reader

variable {s : Reader} {n : Nat}

theorem addUsize_room {a b : Nat} (room : a + b < 2 ^ 64) : addUsize a b = .ok (a + b) := if_pos room

theorem need_stuck (failed : s.st ≠ none) : (need n).run s = .ok (false, s) := by
  simp [need, Option.isSome_iff_ne_none.mpr failed]
  rfl

theorem need_room (going : s.st = none) (room : s.pos + n < 2 ^ 64) (fits : s.pos + n ≤ s.p.length) :
    (need n).run s = .ok (true, s) := by
  simp [need, going, addUsize_room room, Nat.not_lt.mpr fits]
  rfl

theorem need_short (going : s.st = none) (room : s.pos + n < 2 ^ 64) (short : s.p.length < s.pos + n) :
    (need n).run s = .ok (false, { s with st := some .encoding }) := by
  simp [need, going, addUsize_room room, short]
  simp [fail, StateT.run, going]

theorem slice_room (room : s.pos + n < 2 ^ 64) (fits : s.pos + n ≤ s.p.length) :
    ∃ taken, (slice n).run s = .ok (taken, { s with pos := s.pos + n }) ∧
      taken.val = (s.p.drop s.pos).take n := by
  simp [slice, addUsize_room room, fits]

-- A field of fixed length: a check that there is room for it, and its bytes.
theorem parses_block (n : Nat) (junk : α) (f : { bytes : Bytes // bytes.length = n } → α) :
    Parses (do if ← need n then return f (← slice n) else return junk) n
      fun tokens => ((Codec.block n).decode tokens).bind fun read => some (f read.1, read.2) := by
  constructor
  case stuck =>
    intro s failed
    exact ⟨junk, by rw [StateT.run_bind, need_stuck failed]; rfl⟩
  case accepts =>
    intro s a rest going inside room read
    rw [Option.bind_eq_some_iff] at read
    obtain ⟨⟨bytes, behind⟩, front, ⟨⟩⟩ := read
    have whole := ((Codec.block n).decode_iff _ _ _).mp front
    have length := congrArg List.length whole
    rw [List.length_drop, List.length_append, Codec.block, bytes.property] at length
    have fits : s.pos + n ≤ s.p.length := by omega
    obtain ⟨taken, ran, value⟩ := slice_room room fits
    have same : taken = bytes := by
      apply Subtype.ext
      rw [value, whole]
      exact List.take_left' bytes.property
    refine ⟨s.pos + n, ?_, ?_, fits, le_rfl⟩
    · rw [StateT.run_bind, need_room going room fits]
      change ((slice n >>= fun b => pure (f b)) : Read α).run s = _
      rw [StateT.run_bind, ran, same]
      rfl
    · rw [← List.drop_drop, whole]
      exact List.drop_left' bytes.property
  case refuses =>
    intro s going inside room read
    have short : s.p.length < s.pos + n := by
      by_contra fits
      have filled : ((s.p.drop s.pos).take n).length = n := by rw [List.length_take, List.length_drop]; omega
      have here : (Codec.block n).decode (s.p.drop s.pos) = some (⟨_, filled⟩, _) :=
        ((Codec.block n).decode_iff _ _ _).mpr (List.take_append_drop n _).symm
      rw [here] at read
      cases read
    exact ⟨junk, _, by rw [StateT.run_bind, need_short going room short]; rfl, by simp⟩

theorem parses_u32 : Parses u32 4 Codec.word32.decode := parses_block 4 0 _

theorem parses_u64 : Parses u64 8 Codec.word.decode := by
  have same : (fun tokens : Bytes => ((Codec.block 8).decode tokens).bind fun read =>
      some (UInt64.ofNat (Codec.natOfLe read.1.val), read.2)) = Codec.word.decode := by
    funext tokens
    by_cases long : 8 ≤ tokens.length
    next => simp [Codec.block, Codec.word, long]
    next => simp [Codec.block, Codec.word, long]
  rw [← same]
  exact parses_block 8 0 _

def patternCodec : Codec UInt8 Float64 :=
  Codec.word.transport ⟨fun bits => ⟨bits⟩, Float64.bits, fun _ => rfl, fun _ => rfl⟩

theorem parses_f64 : Parses f64 8 patternCodec.decode := parses_u64.map_ fun bits => Float64.mk bits

theorem parses_dig : Parses dig 32 (Codec.block 32).decode := by
  simpa [dig] using parses_block 32 zeroDigest id

theorem parses_u8 : Parses u8 1 Codec.token.decode := by
  constructor
  case stuck =>
    intro s failed
    exact ⟨0, by rw [u8, StateT.run_bind, need_stuck failed]; rfl⟩
  case accepts =>
    intro s a rest going inside room read
    have whole := (Codec.token.decode_iff _ _ _).mp read
    have length := congrArg List.length whole
    rw [List.length_drop, List.length_append, Codec.token, List.length_singleton] at length
    have fits : s.pos + 1 ≤ s.p.length := by omega
    have here : s.p[s.pos]? = some a := by
      rw [← List.head?_drop, whole]
      rfl
    refine ⟨s.pos + 1, ?_, ?_, fits, le_rfl⟩
    · rw [u8, StateT.run_bind, need_room going room fits]
      simp [index, here, addUsize_room room]
    · rw [← List.drop_drop, whole]
      rfl
  case refuses =>
    intro s going inside room read
    have short : s.p.length < s.pos + 1 := by
      by_contra fits
      have here := List.drop_eq_getElem_cons (show s.pos < s.p.length by omega)
      rw [here] at read
      cases read
    exact ⟨0, _, by rw [u8, StateT.run_bind, need_short going room short]; rfl, by simp⟩

def seeHdr (want : Kind) (read : UInt8 × UInt8) : Read Unit := do
  let s ← get
  if s.st.isSome then return ()
  else if read.1 ≠ want.code then fail .kind
  else if read.2 ≠ FORMAT_VERSION then fail .encoding

def twoBytes : Read (UInt8 × UInt8) := do
  let k ← u8
  let v ← u8
  return (k, v)

theorem hdr_eq (want : Kind) : hdr want = twoBytes >>= seeHdr want := by
  simp [hdr, twoBytes, seeHdr]

theorem seeHdr_stuck (want : Kind) (read : UInt8 × UInt8) {s : Reader} (failed : s.st ≠ none) :
    (seeHdr want read).run s = .ok ((), s) := by
  simp [seeHdr, Option.isSome_iff_ne_none.mpr failed]
  rfl

theorem seeHdr_good (want : Kind) (s : Reader) :
    (seeHdr want (want.code, FORMAT_VERSION)).run s = .ok ((), s) := by
  simp [seeHdr]
  rfl

theorem seeHdr_bad (want : Kind) {read : UInt8 × UInt8} {s : Reader} (going : s.st = none)
    (other : read ≠ (want.code, FORMAT_VERSION)) :
    ∃ s', (seeHdr want read).run s = .ok ((), s') ∧ s'.st ≠ none := by
  by_cases kind : read.1 = want.code
  next =>
    have version : read.2 ≠ FORMAT_VERSION := fun same => other (Prod.ext kind same)
    exact ⟨{ s with st := some .encoding },
      by simp [seeHdr, going, kind, version]; simp [fail, StateT.run, going], by simp⟩
  next =>
    exact ⟨{ s with st := some .kind }, by simp [seeHdr, going, kind]; simp [fail, StateT.run, going], by simp⟩

-- The two bytes in front of every record.
theorem parses_hdr (want : Kind) : Parses (hdr want) 2 (Codec.mark [want.code, FORMAT_VERSION]).decode := by
  have both : Parses twoBytes 2 (Codec.token.pair Codec.token).decode :=
    parses_u8.bind_ fun k => parses_u8.map_ fun v => (k, v)
  rw [hdr_eq]
  constructor
  case stuck =>
    intro s failed
    obtain ⟨read, ran⟩ := both.stuck s failed
    exact ⟨(), by rw [StateT.run_bind, ran]; exact seeHdr_stuck want read failed⟩
  case accepts =>
    intro s a rest going inside room read
    have whole := ((Codec.mark _).decode_iff _ _ _).mp read
    have front := ((Codec.token.pair Codec.token).decode_iff (s.p.drop s.pos) (want.code, FORMAT_VERSION) rest).mpr whole
    obtain ⟨pos, ran, here, within, near⟩ := both.accepts s _ rest going inside room front
    exact ⟨pos, by rw [StateT.run_bind, ran]; exact seeHdr_good want _, here, within, near⟩
  case refuses =>
    intro s going inside room read
    cases front : (Codec.token.pair Codec.token).decode (s.p.drop s.pos) with
    | none =>
      obtain ⟨a, s', ran, failed⟩ := both.refuses s going inside room front
      exact ⟨(), s', by rw [StateT.run_bind, ran]; exact seeHdr_stuck want a failed, failed⟩
    | some pair =>
      obtain ⟨bytes, rest⟩ := pair
      obtain ⟨pos, ran, -, -, -⟩ := both.accepts s bytes rest going inside room front
      have other : bytes ≠ (want.code, FORMAT_VERSION) := by
        intro same
        have whole := ((Codec.token.pair Codec.token).decode_iff _ _ _).mp front
        rw [same] at whole
        have marked := ((Codec.mark [want.code, FORMAT_VERSION]).decode_iff (s.p.drop s.pos) () rest).mpr whole
        rw [marked] at read
        cases read
      obtain ⟨s', saw, failed⟩ := seeHdr_bad want (s := { s with pos }) going other
      exact ⟨(), s', by rw [StateT.run_bind, ran]; exact saw, failed⟩

end Fields

section Records

open Reader Codec

theorem parses_entries {value : Read β} {size : Nat} {c : Codec UInt8 β}
    (reads : Parses value size c.decode) (n : Nat) :
    Parses (readEntries value n) (n * (4 + size)) ((word32.pair c).decodeItems n) := by
  induction n with
  | zero =>
    rw [Nat.zero_mul]
    exact Parses.pure_ []
  | succ n ih =>
    have turn := parses_u32.bind_ fun id => reads.bind_ fun v => ih.map_ fun others => (id, v) :: others
    have room : 4 + (size + n * (4 + size)) = (n + 1) * (4 + size) := by
      rw [Nat.succ_mul]
      omega
    rw [room] at turn
    apply turn.congr
    intro tokens
    simp [decodeItems, Codec.pair, Option.bind_assoc]

def ParsesAs (m : Read β) (size : Nat) (c : Codec UInt8 α) (f : α → β) : Prop :=
  Parses m size fun tokens => (c.decode tokens).bind fun read => some (f read.1, read.2)

theorem parsesAs_last {m : Read α} {size : Nat} {c : Codec UInt8 α} (reads : Parses m size c.decode)
    (f : α → β) :
    ParsesAs (do let a ← m; return f a) size c f :=
  reads.map_ f

theorem parsesAs_field {m : Read α} {k : α → Read γ} {size more : Nat} {c : Codec UInt8 α} {d : Codec UInt8 β}
    {f : α → β → γ} (first : Parses m size c.decode) (others : ∀ a, ParsesAs (k a) more d (f a)) :
    ParsesAs (m >>= k) (size + more) (c.pair d) fun fields => f fields.1 fields.2 := by
  apply (first.bind_ others).congr
  intro tokens
  simp [Codec.pair, Option.bind_assoc]

def behindHdr (k : Kind) (c : Codec UInt8 α) (e : α ≃ β) : Codec UInt8 β :=
  ((mark [k.code, FORMAT_VERSION]).pair c).transport ((Equiv.punitProd α).trans e)

def resourceCodec : Codec UInt8 (UInt32 × UInt32 × Float64 × Digest32) :=
  behindHdr .resource (word32.pair (word32.pair (patternCodec.pair (block 32)))) (Equiv.refl _)

theorem parses_resource : Parses readResource 50 resourceCodec.decode :=
  parsesAs_field (parses_hdr .resource) fun _ =>
  parsesAs_field parses_u32 fun resourceId =>
  parsesAs_field parses_u32 fun unit =>
  parsesAs_field parses_f64 fun scale =>
  parsesAs_last parses_dig fun contract => (resourceId, unit, scale, contract)

def rawConstraintEquiv :
    UInt32 × UInt32 × UInt32 × Float64 × Digest32 × Digest32 × Digest32 × UInt32 × Float64 × Float64 × Digest32 ×
      Float64 × UInt32 × Digest32 × UInt64 × UInt64 × Digest32 × Digest32 ≃ RawConstraint where
  toFun := fun (resourceId, unit, cls, budget, budgetContract, observationRef, estimateRef, estimateKind, estimate,
    uncertainty, calibrationRef, lambda, lambdaState, controllerId, generation, tick, evidenceRoot, parent) =>
    { resourceId, unit, cls, budget, budgetContract, observationRef, estimateRef, estimateKind, estimate, uncertainty,
      calibrationRef, lambda, lambdaState, controllerId, generation, tick, evidenceRoot, parent }
  invFun r := (r.resourceId, r.unit, r.cls, r.budget, r.budgetContract, r.observationRef, r.estimateRef, r.estimateKind,
    r.estimate, r.uncertainty, r.calibrationRef, r.lambda, r.lambdaState, r.controllerId, r.generation, r.tick,
    r.evidenceRoot, r.parent)
  left_inv _ := rfl
  right_inv _ := rfl

def constraintCodec : Codec UInt8 RawConstraint :=
  behindHdr .constraint (word32.pair (word32.pair (word32.pair (patternCodec.pair ((block 32).pair ((block 32).pair
    ((block 32).pair (word32.pair (patternCodec.pair (patternCodec.pair ((block 32).pair (patternCodec.pair (word32.pair
      ((block 32).pair (word.pair (word.pair ((block 32).pair (block 32)))))))))))))))))) rawConstraintEquiv

theorem parses_constraint : Parses readConstraint 294 constraintCodec.decode := by
  have reads :=
    parsesAs_field (parses_hdr .constraint) fun _ =>
    parsesAs_field parses_u32 fun resourceId =>
    parsesAs_field parses_u32 fun unit =>
    parsesAs_field parses_u32 fun cls =>
    parsesAs_field parses_f64 fun budget =>
    parsesAs_field parses_dig fun budgetContract =>
    parsesAs_field parses_dig fun observationRef =>
    parsesAs_field parses_dig fun estimateRef =>
    parsesAs_field parses_u32 fun estimateKind =>
    parsesAs_field parses_f64 fun estimate =>
    parsesAs_field parses_f64 fun uncertainty =>
    parsesAs_field parses_dig fun calibrationRef =>
    parsesAs_field parses_f64 fun lambda =>
    parsesAs_field parses_u32 fun lambdaState =>
    parsesAs_field parses_dig fun controllerId =>
    parsesAs_field parses_u64 fun generation =>
    parsesAs_field parses_u64 fun tick =>
    parsesAs_field parses_dig fun evidenceRoot =>
    parsesAs_last parses_dig fun parent =>
      RawConstraint.mk resourceId unit cls budget budgetContract observationRef estimateRef estimateKind estimate
        uncertainty calibrationRef lambda lambdaState controllerId generation tick evidenceRoot parent
  exact reads

def controllerEquiv : Float64 × Float64 × Float64 × UInt64 × UInt64 × UInt32 ≃
    (Float64 × Float64 × Float64 × UInt64 × UInt64) × UInt32 where
  toFun := fun (eta, rho, kSigma, maxAge, cadence, n) => ((eta, rho, kSigma, maxAge, cadence), n)
  invFun := fun ((eta, rho, kSigma, maxAge, cadence), n) => (eta, rho, kSigma, maxAge, cadence, n)
  left_inv _ := rfl
  right_inv _ := rfl

def controllerCodec : Codec UInt8 ((Float64 × Float64 × Float64 × UInt64 × UInt64) × UInt32) :=
  behindHdr .controller (patternCodec.pair (patternCodec.pair (patternCodec.pair (word.pair (word.pair word32)))))
    controllerEquiv

theorem parses_controller : Parses readController 46 controllerCodec.decode :=
  parsesAs_field (parses_hdr .controller) fun _ =>
  parsesAs_field parses_f64 fun eta =>
  parsesAs_field parses_f64 fun rho =>
  parsesAs_field parses_f64 fun kSigma =>
  parsesAs_field parses_u64 fun maxAge =>
  parsesAs_field parses_u64 fun cadence =>
  parsesAs_last parses_u32 fun n => ((eta, rho, kSigma, maxAge, cadence), n)

def priceVectorCodec : Codec UInt8 ((UInt64 × Digest32) × UInt32) :=
  behindHdr .priceVector (word.pair ((block 32).pair word32)) (Equiv.prodAssoc _ _ _).symm

theorem parses_priceVector : Parses readPriceVector 46 priceVectorCodec.decode :=
  parsesAs_field (parses_hdr .priceVector) fun _ =>
  parsesAs_field parses_u64 fun generation =>
  parsesAs_field parses_dig fun context =>
  parsesAs_last parses_u32 fun n => ((generation, context), n)

end Records

end SparkRsi.Dual
