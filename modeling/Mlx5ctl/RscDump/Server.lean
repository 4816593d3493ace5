/-
  A device that serves dumps, and the tool at the other end.

  `Stateless K answer` says that the outside world answers a RESOURCE_DUMP request by the register
  data it carries and by nothing else. `Serves answer inb k chunks` says what such a device makes
  of the requests from `inb` on: each of its replies continues the last, with the next of `chunks`
  in it and the sequence number `k + 1` and on.

  `tokens` is one: it puts the place in the dump it has come to into `device_opaque`, which the
  tool hands back, so that a request says by itself what comes next (`tokens_serve`).
-/
import Mlx5ctl.RscDump.Lossless
import Mlx5ctl.RegAccess

namespace Mlx5ctl.RscDump

open ByteMem CInt Ifc Turn

variable {σ : Type}

/-- The register the device answers this one with. -/
def replyTo (answer : List u8 → List u8) (inb : Mem) : Mem :=
  overlay (answer (load inb 0 ResourceDump.szBytes)) zeroMem

/-- The outside world grants memory, and answers a dump request by its register data alone. -/
structure Stateless (K : Sys σ) (answer : List u8 → List u8) : Prop where
  rpc : ∀ s inb req n, Carries inb ResourceDump.szBytes MLX5_REG_RESOURCE_DUMP 0 0 req →
    (K.rpc s req n).1 = 0 ∧ (K.rpc s req n).2.1 =
      List.replicate 16 0 ++ answer (load inb 0 ResourceDump.szBytes)
  malloc : ∀ s n, n < 2147483648 → (K.malloc s n).1 ≠ none
  realloc : ReallocGrants K

/-! ## One access -/

/-- The register data stands behind the header. -/
theorem overlay_header (data : List u8) (k : Nat) :
    overlay (List.replicate 16 0 ++ data) zeroMem (16 + k) = overlay data zeroMem k := by
  unfold overlay
  rw [List.getD_append_right _ _ _ _ (by simp), List.length_replicate, Nat.add_sub_cancel_left]
  rfl

theorem access_answered {K : Sys σ} {answer : List u8 → List u8} (hK : Stateless K answer)
    (w : World σ) (inb out : Mem) :
    (access K w inb out).err = 0 ∧
      ∀ k, k < ResourceDump.szBytes → (access K w inb out).dataOut k = replyTo answer inb k := by
  obtain ⟨b, hb⟩ := Option.ne_none_iff_exists'.mp (hK.malloc w.sys (16 + 256) (by decide))
  obtain ⟨c, hc⟩ := Option.ne_none_iff_exists'.mp
    (hK.malloc (K.malloc w.sys (16 + 256)).2 (16 + 256) (by decide))
  generalize ht : (K.malloc (K.malloc w.sys (16 + 256)).2 (16 + 256)).2 = t
  have hcall := mlx5AccessReg_allocated K (w := w) (n := 256) (m := 256) (by decide) (by decide)
    (b := b) (c := c) (t := t) (Prod.ext hb rfl) (Prod.ext hc ht) inb out
    MLX5_REG_RESOURCE_DUMP 0 0 rfl
  have hcarries := accessRegIn_carries b inb (n := 256) (by decide) MLX5_REG_RESOURCE_DUMP 0 0
  generalize accessRegIn b (16 + 256) inb (256 : Nat) MLX5_REG_RESOURCE_DUMP 0 0 = req
    at hcall hcarries
  obtain ⟨hret, hreply⟩ := hK.rpc t inb _ (16 + 256) hcarries
  have hin : replyIn K { w with sys := t } req (16 + 256) (memset0 c (16 + 256)) (16 + 256) =
      overlay ((List.replicate 16 0 ++ answer (load inb 0 256)).take (16 + 256))
        (memset0 c (16 + 256)) :=
    congrArg (fun r => overlay (List.take (16 + 256) r) (memset0 c (16 + 256))) hreply
  have hstatus : mlx5Get (replyIn K { w with sys := t } req (16 + 256) (memset0 c (16 + 256))
      (16 + 256)) 0 MboxOut.status = 0 := by
    apply BitVec.eq_of_toNat_eq
    rw [status_byte, hin, overlay_memset0 _ _ (by decide)]
    rfl
  obtain ⟨hzero, hout, -, -⟩ := mlx5uCmd_ok K hret hstatus
  have hacc : access K w inb out = ⟨0, copy out 0 256 (shift (overlay
      ((List.replicate 16 0 ++ answer (load inb 0 256)).take (16 + 256))
      (memset0 c (16 + 256))) 16),
      (mlx5uCmd K { w with sys := t } req (16 + 256) (memset0 c (16 + 256)) (16 + 256)).w⟩ := by
    refine hcall.trans ?_
    rw [if_neg (not_not.mpr hzero), hzero, hout, hin]
    rfl
  rw [hacc]
  refine ⟨rfl, fun k hk => ?_⟩
  have hk' : k < 256 := hk
  have hcopy := copy_inside out 0 256 (shift (overlay ((List.replicate 16 0 ++
    answer (load inb 0 256)).take (16 + 256)) (memset0 c (16 + 256))) 16) hk'
  rw [Nat.zero_add] at hcopy
  dsimp only
  rw [hcopy, shift, overlay_memset0 _ _ (by omega), overlay_header]
  rfl

/-- Two registers with the same bytes have the same bits. -/
theorem register_bits {p q : Mem} (h : ∀ k, k < ResourceDump.szBytes → p k = q k) {i : Nat}
    (hi : i < 8 * ResourceDump.szBytes) : bit p i = bit q i := by
  unfold bit
  rw [h (i / 8) (by omega)]

theorem register_field {p q : Mem} (h : ∀ k, k < ResourceDump.szBytes → p k = q k) {f : Field}
    (hf : f.off + f.sz ≤ 8 * ResourceDump.szBytes) : mlx5Get p 0 f = mlx5Get q 0 f :=
  mlx5Get_congr fun _ _ _ => register_bits h (by omega)

/-- The next request depends on the register only. -/
theorem nextRequest_congr (inb : Mem) {p q : Mem}
    (h : ∀ k, k < ResourceDump.szBytes → p k = q k) : nextRequest inb p = nextRequest inb q := by
  refine ext_bit fun i => ?_
  by_cases hi : Copied i
  · have hlt := copied_lt hi
    rw [(bit_nextRequest inb p i).1 hi, (bit_nextRequest inb q i).1 hi]
    exact register_bits h (by show i < 8 * 256; omega)
  · rw [(bit_nextRequest inb p i).2 hi, (bit_nextRequest inb q i).2 hi]

/-! ## Dumps that are served -/

/-- A reply with this chunk, the sequence number `k + 1`, and more to come or not. -/
structure Shows (reply : Mem) (k : Nat) (chunk : Chunk) (more : Bool) : Prop where
  size : (mlx5Get reply 0 ResourceDump.size).toNat = chunk.bytes.length
  data : load reply ResourceDump.inlineData chunk.bytes.length = chunk.bytes
  seq : seqNum reply = (k + 1) % 16
  more : mlx5Get reply 0 ResourceDump.moreDump ≠ 0 ↔ more = true

theorem Shows.congr {reply reply' : Mem} {k : Nat} {chunk : Chunk} {more : Bool}
    (h : ∀ j, j < ResourceDump.szBytes → reply' j = reply j) (hs : Shows reply k chunk more) :
    Shows reply' k chunk more := by
  have hfits : chunk.bytes.length ≤ 208 := chunk.fits
  refine ⟨?_, ?_, ?_, ?_⟩
  · rw [register_field h (by decide)]
    exact hs.size
  · refine Eq.trans (load_congr fun j hj => h _ ?_) hs.data
    show 48 + j < 256
    omega
  · exact Eq.trans (congrArg BitVec.toNat (register_field h (by decide))) hs.seq
  · rw [register_field h (by decide)]
    exact hs.more

/-- From this request on, the device answers with these chunks. -/
inductive Serves (answer : List u8 → List u8) : Mem → Nat → List Chunk → Prop where
  | last {inb k chunk} (shows : Shows (replyTo answer inb) k chunk false) :
      Serves answer inb k [chunk]
  | more {inb k chunk rest} (shows : Shows (replyTo answer inb) k chunk true)
      (next : Serves answer (nextRequest inb (replyTo answer inb)) (k + 1) rest) :
      Serves answer inb k (chunk :: rest)

/-- The loop has the bytes `acc` of `k` replies, and the device has `rest` for it. -/
structure Midway (answer : List u8 → List u8) (c : Collect σ) (acc : List u8) (k : Nat)
    (rest : List Chunk) : Prop where
  holds : Holds c acc k
  serves : Serves answer c.inb k rest

section Turn

variable {K : Sys σ} {answer : List u8 → List u8} (hK : Stateless K answer)

include hK

/-- What the device shows is what the tool is answered with. -/
theorem Shows.answers {c : Collect σ} {k : Nat} {chunk : Chunk} {more : Bool}
    (h : Shows (replyTo answer c.inb) k chunk more) : Answers K c k chunk more := by
  obtain ⟨hacc, hreply⟩ := access_answered hK c.w c.inb c.out
  obtain ⟨hsize, hdata, hseq, hmore⟩ := h.congr hreply
  exact ⟨hacc, hsize, hdata, hseq, hmore⟩

/-- A turn that goes round again leaves the request the device expects next. -/
theorem collectTurn_next {c c' : Collect σ} (h : collectTurn K c = .again c') :
    c'.inb = nextRequest c.inb (replyTo answer c.inb) := by
  rw [(collectTurn_again K h).2.2.1]
  exact nextRequest_congr c.inb (access_answered hK c.w c.inb c.out).2

/-- A turn takes the next chunk: the loop goes on with the others, or leaves with all of them. -/
theorem Midway.turn {c : Collect σ} {acc : List u8} {k : Nat} {chunk : Chunk}
    {rest : List Chunk} (h : Midway answer c acc k (chunk :: rest))
    (hlen : (acc ++ chunk.bytes).length < 1073741824) :
    Post (fun c' => rest ≠ [] ∧ Midway answer c' (acc ++ chunk.bytes) (k + 1) rest)
      (fun r => rest = [] ∧ r.Returns (acc ++ chunk.bytes)) (collectTurn K c) := by
  obtain ⟨hholds, hserves⟩ := h
  cases hserves with
  | last shows =>
      obtain ⟨r, hturn, hret⟩ := collectTurn_last K hK.realloc hholds (shows.answers hK) hlen
      rw [hturn]
      exact ⟨rfl, hret⟩
  | more shows next =>
      obtain ⟨c', hturn, hholds'⟩ := collectTurn_more K hK.realloc hholds (shows.answers hK) hlen
      rw [hturn]
      refine ⟨?_, hholds', ?_⟩
      · cases next <;> simp
      · rwa [collectTurn_next hK hturn]

end Turn

/-! ## A device with tokens -/

/-- The place in the dump a request asks for. -/
def place (inb : Mem) : Nat := (mlx5Get64 inb 0 ResourceDump.deviceOpaque).toNat

/-- A request without what the device counts in it. -/
def asked (inb : Mem) : Mem :=
  let inb := mlx5Set inb 0 ResourceDump.seqNum 0
  let inb := mlx5Set inb 0 ResourceDump.moreDump 0
  mlx5Set64 inb 0 ResourceDump.deviceOpaque 0

/-- The fields of a reply with at most `cut` bytes of `rest`. -/
def tokenFields (cut : Nat) (rest : List u8) (inb : Mem) : Mem :=
  let out := mlx5Set inb 0 ResourceDump.seqNum (mlx5Get inb 0 ResourceDump.seqNum + 1)
  let out := mlx5Set out 0 ResourceDump.moreDump (if cut < rest.length then 1 else 0)
  let out := mlx5Set64 out 0 ResourceDump.deviceOpaque (BitVec.ofNat 64 (place inb + cut))
  mlx5Set out 0 ResourceDump.size (BitVec.ofNat 32 (rest.take cut).length)

/-- The reply to a request: the fields, and the bytes. -/
def tokenReply (dump : List u8 → List u8) (cut : Nat) (inb : Mem) : Mem :=
  let rest := (dump (load (asked inb) 0 ResourceDump.szBytes)).drop (place inb)
  copy (tokenFields cut rest inb) ResourceDump.inlineData (rest.take cut).length
    (overlay (rest.take cut) zeroMem)

/-- The same, on the bytes of a register. -/
def tokenAnswer (dump : List u8 → List u8) (cut : Nat) (reg : List u8) : List u8 :=
  load (tokenReply dump cut (overlay reg zeroMem)) 0 ResourceDump.szBytes

/-- A device that has `dump` for what is asked, `cut` bytes at a time. -/
def tokens (dump : List u8 → List u8) (cut : Nat) : Sys Unit where
  malloc s n := (if n ≤ ptrdiffMax then some zeroMem else none, s)
  realloc s n := (if n ≤ ptrdiffMax then some zeroMem else none, s)
  rpc s req _ := (0, List.replicate 16 0 ++ tokenAnswer dump cut (req.drop 16), s)
  errno _ := 0
  umem _ := zeroMem
  malloc_limit _ _ h := if_neg (Nat.not_le.mpr h)
  realloc_limit _ _ h := if_neg (Nat.not_le.mpr h)

theorem tokens_stateless (dump : List u8 → List u8) (cut : Nat) :
    Stateless (tokens dump cut) (tokenAnswer dump cut) where
  rpc s inb req n h := by
    refine ⟨rfl, ?_⟩
    show List.replicate 16 0 ++ tokenAnswer dump cut (req.drop 16) = _
    rw [show req.drop 16 = load inb 0 ResourceDump.szBytes from h.registerData]
  malloc s n hn := by
    have hle : n ≤ ptrdiffMax := by unfold ptrdiffMax; omega
    simp [tokens, hle]
  realloc s n hn := by
    have hle : n ≤ ptrdiffMax := by unfold ptrdiffMax; omega
    simp [tokens, hle]

/-- The bits the device counts in. -/
def Counted (i : Nat) : Prop :=
  HasBit ResourceDump.seqNum i ∨ HasBit ResourceDump.moreDump i ∨
    (ResourceDump.deviceOpaque.off ≤ i ∧ i < ResourceDump.deviceOpaque.off + 64)

instance (i : Nat) : Decidable (Counted i) := inferInstanceAs (Decidable (_ ∨ _))

theorem bit_mlx5Set_ne (p : Mem) {f : Field} (v : u32) {i : Nat} (h : ¬ HasBit f i) :
    bit (mlx5Set p 0 f v) i = bit p i := by
  unfold HasBit at h
  exact (mlx5Set_replaces p 0 f v).outside (by omega)

theorem mlx5Get_set64_ne (p : Mem) (d : Field64) (v : u64) (f : Field)
    (h : f.off + f.sz ≤ d.off ∨ d.off + 64 ≤ f.off) :
    mlx5Get (mlx5Set64 p 0 d v) 0 f = mlx5Get p 0 f :=
  mlx5Get_congr fun _ _ _ => (mlx5Set64_replaces p 0 d v).outside (by omega)

theorem bit_mlx5Set64_ne (p : Mem) {d : Field64} (v : u64) {i : Nat}
    (h : ¬ (d.off ≤ i ∧ i < d.off + 64)) : bit (mlx5Set64 p 0 d v) i = bit p i :=
  (mlx5Set64_replaces p 0 d v).outside (by omega)

theorem bit_cleared (p : Mem) (f : Field) (i : Nat) :
    bit (mlx5Set p 0 f 0) i = if HasBit f i then false else bit p i := by
  have h := mlx5Set_replaces p 0 f 0 i
  rwa [Nat.mul_zero, Nat.zero_add, show (0 : u32).toNat = 0 from rfl, Nat.zero_testBit] at h

theorem bit_asked (inb : Mem) (i : Nat) :
    bit (asked inb) i = if Counted i then false else bit inb i := by
  have hdevice := mlx5Set64_replaces (mlx5Set (mlx5Set inb 0 ResourceDump.seqNum 0) 0
    ResourceDump.moreDump 0) 0 ResourceDump.deviceOpaque 0 i
  rw [Nat.mul_zero, Nat.zero_add, show (0 : u64).toNat = 0 from rfl, Nat.zero_testBit,
    bit_cleared, bit_cleared] at hdevice
  unfold asked
  dsimp only
  rw [hdevice]
  by_cases hseq : HasBit ResourceDump.seqNum i
  · simp [Counted, hseq]
  · by_cases hmore : HasBit ResourceDump.moreDump i
    · simp [Counted, hmore]
    · simp [Counted, hseq, hmore]

/-- What is asked is read off the bits that are not counted in. -/
theorem asked_congr {p q : Mem}
    (h : ∀ i, i < 8 * ResourceDump.szBytes → ¬ Counted i → bit p i = bit q i) :
    load (asked p) 0 ResourceDump.szBytes = load (asked q) 0 ResourceDump.szBytes := by
  rw [load_eq_iff]
  intro i hi
  rw [bit_asked, bit_asked]
  split_ifs with hc
  · rfl
  · exact h i hi hc

/-- The request is for this dump, from place `p` on, and has the sequence number of `k`. -/
structure Wants (key : List u8) (k p : Nat) (inb : Mem) : Prop where
  key : load (asked inb) 0 ResourceDump.szBytes = key
  seq : seqNum inb = k % 16
  place : place inb = p

theorem place_congr {p q : Mem} (h : ∀ i, i < 8 * ResourceDump.szBytes → bit p i = bit q i) :
    place p = place q :=
  congrArg BitVec.toNat (mlx5Get64_congr fun i _ hi => h i (Nat.lt_trans hi (by decide)))

theorem seqNum_congr {p q : Mem} (h : ∀ i, i < 8 * ResourceDump.szBytes → bit p i = bit q i) :
    seqNum p = seqNum q :=
  congrArg BitVec.toNat (mlx5Get_congr fun i _ hi => h i (Nat.lt_trans hi (by decide)))

theorem Wants.congr {key : List u8} {k p : Nat} {inb inb' : Mem} (h : Wants key k p inb)
    (hbits : ∀ i, i < 8 * ResourceDump.szBytes → bit inb i = bit inb' i) :
    Wants key k p inb' where
  key := (asked_congr fun i hi _ => (hbits i hi).symm).trans h.key
  seq := (seqNum_congr fun i hi => (hbits i hi).symm).trans h.seq
  place := (place_congr fun i hi => (hbits i hi).symm).trans h.place

/-- A reply that keeps what is asked leads to a request for the same dump. -/
theorem Wants.next {key : List u8} {k p p' : Nat} {inb reply : Mem} (h : Wants key k p inb)
    (hbits : ∀ i, i < 256 → ¬ Counted i → bit reply i = bit inb i)
    (hseq : seqNum reply = (k + 1) % 16) (hplace : RscDump.place reply = p') :
    Wants key (k + 1) p' (nextRequest inb reply) where
  key := by
    refine (asked_congr fun i _ hc => ?_).trans h.key
    by_cases hi : Copied i
    · rw [(bit_nextRequest inb reply i).1 hi, hbits i (copied_lt hi) hc]
    · exact (bit_nextRequest inb reply i).2 hi
  seq := by
    refine Eq.trans (congrArg BitVec.toNat (mlx5Get_congr fun i hlow hhigh => ?_)) hseq
    exact (bit_nextRequest inb reply i).1
      (Or.inl ⟨ResourceDump.seqNum, List.mem_cons_self, by omega, by omega⟩)
  place := by
    refine Eq.trans (congrArg BitVec.toNat (mlx5Get64_congr fun i hlow hhigh => ?_)) hplace
    exact (bit_nextRequest inb reply i).1 (Or.inr ⟨hlow, hhigh⟩)

/-! ## Its replies -/

section Reply

variable (cut : Nat) (rest : List u8) (inb : Mem)

/-- The data of a reply stands behind its fields. -/
theorem bit_tokenReply (dump : List u8 → List u8) {i : Nat} (hi : i < 384) :
    bit (tokenReply dump cut inb) i =
      bit (tokenFields cut ((dump (load (asked inb) 0 ResourceDump.szBytes)).drop (place inb)) inb)
        i := by
  have hdata : i / 8 < ResourceDump.inlineData := by
    show i / 8 < 48
    omega
  unfold tokenReply bit
  dsimp only
  rw [copy_outside _ _ _ _ (Or.inl hdata)]

theorem bit_tokenFields {i : Nat} (hi : i < 256) (hc : ¬ Counted i) :
    bit (tokenFields cut rest inb) i = bit inb i := by
  have hsize : ¬ HasBit ResourceDump.size i := fun h => by
    have hlow : 288 ≤ i := h.1
    omega
  unfold Counted at hc
  rw [not_or, not_or] at hc
  unfold tokenFields
  rw [bit_mlx5Set_ne _ _ hsize, bit_mlx5Set64_ne _ _ hc.2.2, bit_mlx5Set_ne _ _ hc.2.1,
    bit_mlx5Set_ne _ _ hc.1]

theorem size_tokenFields (hcut : cut ≤ ResourceDump.inlineDataBytes) :
    (mlx5Get (tokenFields cut rest inb) 0 ResourceDump.size).toNat = (rest.take cut).length := by
  have hcut' : cut ≤ 208 := hcut
  have hlen : (rest.take cut).length ≤ cut := List.length_take_le cut rest
  unfold tokenFields
  dsimp only
  rw [mlx5Get_set_self, BitVec.toNat_ofNat]
  show (rest.take cut).length % 2 ^ 32 % 2 ^ 32 = _
  omega

theorem seqNum_tokenFields : seqNum (tokenFields cut rest inb) = (seqNum inb + 1) % 16 := by
  unfold tokenFields
  dsimp only
  rw [seqNum_set _ _ _ (by decide), seqNum_set64 _ _ _ (by decide), seqNum_set _ _ _ (by decide)]
  unfold seqNum
  rw [mlx5Get_set_self, BitVec.toNat_add]
  show (_ + 1) % 2 ^ 32 % 2 ^ 4 = _
  omega

theorem moreDump_tokenFields :
    mlx5Get (tokenFields cut rest inb) 0 ResourceDump.moreDump ≠ 0 ↔ cut < rest.length := by
  have hget : (mlx5Get (tokenFields cut rest inb) 0 ResourceDump.moreDump).toNat =
      (if cut < rest.length then 1 else 0 : u32).toNat % 2 ^ 1 := by
    unfold tokenFields
    dsimp only
    rw [mlx5Get_set_ne _ _ _ _ _ (by decide), mlx5Get_set64_ne _ _ _ _ (by decide)]
    exact mlx5Get_set_self _ _ _ _
  rw [ne_eq, ← BitVec.toNat_inj, hget]
  split_ifs with h <;> simp [h]

theorem place_tokenFields (h : place inb + cut < 18446744073709551616) :
    place (tokenFields cut rest inb) = place inb + cut := by
  have hself := (mlx5Set64_replaces (mlx5Set (mlx5Set inb 0 ResourceDump.seqNum
    (mlx5Get inb 0 ResourceDump.seqNum + 1)) 0 ResourceDump.moreDump
    (if cut < rest.length then 1 else 0)) 0 ResourceDump.deviceOpaque
    (BitVec.ofNat 64 (place inb + cut))).num_self
  rw [← mlx5Get64_num, BitVec.toNat_ofNat] at hself
  have hsize : place (tokenFields cut rest inb) = _ :=
    congrArg BitVec.toNat (mlx5Get64_congr fun i _ hi =>
      bit_mlx5Set_ne _ _ fun hbit => by
        have hlow : 288 ≤ i := hbit.1
        have hhigh : i < 256 := hi
        omega)
  rw [hsize, hself]
  omega

end Reply

section Tokens

variable {dump : List u8 → List u8} {cut : Nat} {key : List u8} {k p : Nat} {inb : Mem}

/-- A reply with the next bytes of the dump that is asked for. -/
theorem Wants.shows (h : Wants key k p inb) {chunk : Chunk}
    (hcut : cut ≤ ResourceDump.inlineDataBytes)
    (hchunk : chunk.bytes = ((dump key).drop p).take cut) :
    Shows (tokenReply dump cut inb) k chunk (cut < ((dump key).drop p).length) := by
  have hbits := fun i (hi : i < 384) => bit_tokenReply cut inb dump hi
  have hfield : ∀ f : Field, f.off + f.sz ≤ 384 → mlx5Get (tokenReply dump cut inb) 0 f =
      mlx5Get (tokenFields cut ((dump key).drop p) inb) 0 f := fun f hf => by
    rw [h.key, h.place] at hbits
    exact mlx5Get_congr fun i _ hi => hbits i (by omega)
  refine ⟨?_, ?_, ?_, ?_⟩
  · rw [hfield _ (by decide), size_tokenFields _ _ _ hcut, hchunk]
  · unfold tokenReply
    dsimp only
    rw [h.key, h.place, ← hchunk, load_copy_self]
    exact load_overlay chunk.bytes zeroMem
  · unfold seqNum
    rw [hfield _ (by decide)]
    refine (seqNum_tokenFields _ _ _).trans ?_
    rw [h.seq]
    omega
  · rw [hfield _ (by decide), moreDump_tokenFields, decide_eq_true_iff]

/-- The request that follows it is for the bytes behind. -/
theorem Wants.follows (dump : List u8 → List u8) (h : Wants key k p inb)
    (hp : p + cut < 18446744073709551616) :
    Wants key (k + 1) (p + cut) (nextRequest inb (tokenReply dump cut inb)) := by
  have hbits := fun i (hi : i < 384) => bit_tokenReply cut inb dump hi
  refine h.next (fun i hi hc => ?_) ?_ ?_
  · rw [hbits i (by omega), bit_tokenFields _ _ _ hi hc]
  · refine (congrArg BitVec.toNat (mlx5Get_congr fun i _ hi => hbits i ?_)).trans
      ((seqNum_tokenFields _ _ _).trans ?_)
    · exact Nat.lt_trans hi (by decide)
    · rw [h.seq]
      omega
  · refine (congrArg BitVec.toNat (mlx5Get64_congr fun i _ hi => hbits i ?_)).trans
      ((place_tokenFields _ _ _ ?_).trans ?_)
    · exact Nat.lt_trans hi (by decide)
    · rwa [h.place]
    · rw [h.place]

/-- What goes through the mailbox is the register. -/
theorem sent_bits (inb : Mem) {i : Nat} (hi : i < 8 * ResourceDump.szBytes) :
    bit (overlay (load inb 0 ResourceDump.szBytes) zeroMem) i = bit inb i :=
  requestBit_load inb hi

theorem replyTo_tokens (dump : List u8 → List u8) (cut : Nat) (inb : Mem) (j : Nat)
    (hj : j < ResourceDump.szBytes) :
    replyTo (tokenAnswer dump cut) inb j =
      tokenReply dump cut (overlay (load inb 0 ResourceDump.szBytes) zeroMem) j :=
  overlay_load _ zeroMem hj

/-- The device answers with the next bytes, and the request that follows is for those behind. -/
theorem tokens_round (hcut : cut ≤ ResourceDump.inlineDataBytes)
    (hp : p + cut < 18446744073709551616) (h : Wants key k p inb) {chunk : Chunk}
    (hchunk : chunk.bytes = ((dump key).drop p).take cut) :
    Shows (replyTo (tokenAnswer dump cut) inb) k chunk (cut < ((dump key).drop p).length) ∧
      Wants key (k + 1) (p + cut) (nextRequest inb (replyTo (tokenAnswer dump cut) inb)) := by
  have hsent := h.congr fun i hi => (sent_bits inb hi).symm
  refine ⟨(hsent.shows hcut hchunk).congr (replyTo_tokens dump cut inb), ?_⟩
  refine (hsent.follows dump hp).congr fun i hi => ?_
  rw [nextRequest_congr inb (replyTo_tokens dump cut inb)]
  by_cases hc : Copied i
  · rw [(bit_nextRequest _ _ i).1 hc, (bit_nextRequest _ _ i).1 hc]
  · rw [(bit_nextRequest _ _ i).2 hc, (bit_nextRequest _ _ i).2 hc]
    exact sent_bits inb hi

/-- **The device with tokens serves every dump.** From a request for place `p` on, it answers with
    the bytes of the dump from there, in order. -/
theorem tokens_serve (dump : List u8 → List u8) (hpos : 0 < cut)
    (hcut : cut ≤ ResourceDump.inlineDataBytes)
    (hlen : (dump key).length < 9223372036854775808) (hp : p ≤ (dump key).length)
    (h : Wants key k p inb) :
    ∃ chunks, Serves (tokenAnswer dump cut) inb k chunks ∧
      dumpBytes chunks = (dump key).drop p := by
  generalize hn : (dump key).length - p = n
  induction n using Nat.strongRecOn generalizing k p inb with
  | ind n ih =>
      have hcut' : cut ≤ 208 := hcut
      have hrest : ((dump key).drop p).length = n := by rw [List.length_drop, hn]
      let chunk : Chunk := ⟨((dump key).drop p).take cut, (List.length_take_le cut _).trans hcut⟩
      obtain ⟨hshows, hnext⟩ := tokens_round hcut (by omega) h
        (show chunk.bytes = ((dump key).drop p).take cut from rfl)
      rw [hrest] at hshows
      by_cases hmore : cut < n
      · rw [decide_eq_true hmore] at hshows
        obtain ⟨chunks, hserves, hbytes⟩ := ih (n - cut) (by omega) (by omega) hnext (by omega)
        refine ⟨chunk :: chunks, .more hshows hserves, ?_⟩
        show chunk.bytes ++ dumpBytes chunks = _
        rw [hbytes, ← List.drop_drop]
        exact List.take_append_drop cut _
      · rw [decide_eq_false hmore] at hshows
        refine ⟨[chunk], .last hshows, ?_⟩
        show chunk.bytes ++ [] = _
        rw [List.append_nil]
        exact List.take_of_length_le (by omega)

end Tokens

/-- The key of a dump: the first request, without what the device counts in it. -/
def dumpKey (args : Args) : List u8 := load (asked (inlineRequest args)) 0 ResourceDump.szBytes

theorem place_set (p : Mem) (f : Field) (v : u32) (h : f.off + f.sz ≤ 192) :
    place (mlx5Set p 0 f v) = place p :=
  congrArg BitVec.toNat (mlx5Get64_congr fun i hlow _ => bit_mlx5Set_ne p v fun hbit => by
    have hlow' : 192 ≤ i := hlow
    have hhigh : i < f.off + f.sz := hbit.2
    omega)

theorem inlineRequest_wants (args : Args) : Wants (dumpKey args) 0 0 (inlineRequest args) where
  key := rfl
  seq := seqNum_inlineRequest args
  place := by
    unfold inlineRequest setArgs
    dsimp only
    rw [place_set _ _ _ (by decide), place_set _ _ _ (by decide), place_set _ _ _ (by decide),
      place_set _ _ _ (by decide), place_set _ _ _ (by decide)]
    decide

end Mlx5ctl.RscDump
