/-
  `rscdump` from the device to the screen.

  The pieces are elsewhere: a served dump is collected without loss (`Midway.turn`), and the bytes
  of a dump are decoded to what the format says of it (`dump_decoded`). Here they are put together
  for the command: a dump that a device cuts into chunks of any sizes is printed, segment by
  segment, and nothing else is (`rscdump_prints`).
-/
import Mlx5ctl.RscDump.Server
import Mlx5ctl.RscDump.RoundTrip
import Mlx5ctl.RscDump.Options
import Mlx5ctl.ExitStatus

namespace Mlx5ctl.RscDump

open ByteMem CInt CString Turn

variable {σ : Type}

/-! ## What is collected, and that nothing is printed -/

section Collect

variable {K : Sys σ}

theorem makeRoom_out {c c' : Collect σ} {n : Int} (h : makeRoom K c n = .again c') :
    c'.w.out = c.w.out := by
  unfold makeRoom at h
  dsimp only at h
  split_ifs at h
  · split at h
    · cases h
    · cases h
      rfl
  · cases h
    rfl

theorem collectStart_out {w : World σ} {args : Args} {total : Int} {c : Collect σ}
    (h : collectStart K w args total = .again c) : c.w.out = w.out := by
  unfold collectStart at h
  dsimp only at h
  split at h
  · cases h
  · cases h
    rfl

/-- A round that is accepted prints nothing. -/
theorem iterate_out_eq {c : Collect σ} (h : 0 ≤ (mlx5RscDumpIter K c.w c.inb c.out).err) :
    (c.iterate K).w.out = c.w.out := by
  have hacc := ((iter_accepted_iff K c.w c.inb c.out).mp h).1
  have hsilent : (access K c.w c.inb c.out).w.out = c.w.out := mlx5AccessReg_silent K hacc
  rw [← hsilent]
  show (mlx5RscDumpIter K c.w c.inb c.out).w.out = _
  unfold mlx5RscDumpIter
  dsimp only
  rw [if_neg (not_not.mpr hacc)]
  split_ifs <;> rfl

variable {answer : List u8 → List u8} (hK : Stateless K answer)

include hK

/-- A turn that takes a chunk prints nothing. -/
theorem Midway.silent {c : Collect σ} {acc : List u8} {k : Nat} {chunk : Chunk}
    {rest : List Chunk} (h : Midway answer c acc k (chunk :: rest))
    (hlen : (acc ++ chunk.bytes).length < 1073741824) :
    Post (fun c' => c'.w.out = c.w.out) (fun r => r.w.out = c.w.out) (collectTurn K c) := by
  obtain ⟨more, hshows⟩ : ∃ more, Shows (replyTo answer c.inb) k chunk more := by
    cases h.serves with
    | last shows => exact ⟨_, shows⟩
    | more shows next => exact ⟨_, shows⟩
  have ha := hshows.answers hK
  have herr := (iter_accepted_iff K c.w c.inb c.out).mpr
    ⟨ha.acc, answers_accepted K h.holds ha⟩
  obtain ⟨c', hroom, -, -⟩ := append_buffered K hK.realloc h.holds.toBuffered ha hlen
  have hout : c'.w.out = c.w.out := (makeRoom_out hroom).trans (iterate_out_eq herr)
  rw [collectTurn_accepted K herr, hroom, bind_again]
  split_ifs <;> exact hout

/-- From any state on the way, the loop leaves with the rest behind what it has. -/
theorem Midway.run {c : Collect σ} {acc : List u8} {k : Nat} {chunks : List Chunk}
    (h : Midway answer c acc k chunks) (hne : chunks ≠ [])
    (hlen : (acc ++ dumpBytes chunks).length < 1073741824) :
    ∃ r, Turn.run (collectTurn K) chunks.length c = .exit r ∧
      r.Returns (acc ++ dumpBytes chunks) ∧ r.w.out = c.w.out := by
  induction chunks generalizing c acc k with
  | nil => exact absurd rfl hne
  | cons chunk rest ih =>
      have hbytes : acc ++ dumpBytes (chunk :: rest) = acc ++ chunk.bytes ++ dumpBytes rest :=
        (List.append_assoc _ _ _).symm
      rw [hbytes] at hlen ⊢
      have hfirst : (acc ++ chunk.bytes).length < 1073741824 := by
        rw [List.length_append] at hlen
        omega
      have hturn := h.turn hK hfirst
      have hsilent := h.silent hK hfirst
      rw [List.length_cons, run_succ]
      cases hc : collectTurn K c with
      | exit r =>
          rw [hc] at hturn hsilent
          obtain ⟨rfl, hret⟩ := hturn
          exact ⟨r, rfl, by rwa [show dumpBytes [] = [] from rfl, List.append_nil], hsilent⟩
      | again c' =>
          rw [hc] at hturn hsilent
          obtain ⟨hrest, hmid⟩ := hturn
          obtain ⟨r, hr, hret, hout⟩ := ih hmid hrest hlen
          exact ⟨r, hr, hret, hout.trans hsilent⟩

/-- A dump that is served is collected, and nothing is printed on the way. -/
theorem collect_served {args : Args} {chunks : List Chunk} (w : World σ)
    (hserves : Serves answer (inlineRequest args) 0 chunks)
    (hlen : (dumpBytes chunks).length < 1073741824) :
    ∃ r, rscdumpCollect K w args 0 chunks.length = .exit r ∧ r.Returns (dumpBytes chunks) ∧
      r.w.out = w.out := by
  obtain ⟨c, hstart, hholds⟩ := collectStart_holds K args (hK.malloc w.sys 4069 (by decide))
  have hmid : Midway answer c [] 0 chunks := ⟨hholds, by rwa [collectStart_inb K hstart]⟩
  have hne : chunks ≠ [] := by cases hserves <;> simp
  obtain ⟨r, hr, hret, hout⟩ := hmid.run hK hne hlen
  refine ⟨r, ?_, hret, hout.trans (collectStart_out hstart)⟩
  unfold rscdumpCollect
  rw [hstart, bind_again, hr]

end Collect

/-! ## The command -/

/-- What `rscdump` prints of a dump with `size` bytes. -/
def Dump.lines (d : Dump) (size : Nat) : List Line :=
  d.prefixLines size ++ segmentLines 36 d.segments ++ d.final.lines

/-- A buffer that starts with the bytes of a dump has its words. -/
theorem words_of_load {p : Mem} {ws : List u32} {trailing : List u8} {n : Nat}
    (h : load p 0 n = bytesOf ws ++ trailing) : Words p 0 ws := by
  have hn : n = 4 * ws.length + trailing.length := by
    have hlen := congrArg List.length h
    rwa [load_length, List.length_append, bytesOf_length] at hlen
  rw [hn, load_add] at h
  exact (List.append_inj h (by rw [load_length, bytesOf_length])).1

/-- A dump that is served is collected and decoded. -/
theorem mlx5RscDump_prints {K : Sys σ} {answer : List u8 → List u8} (hK : Stateless K answer)
    {args : Args} {chunks : List Chunk} {d : Dump} {trailing : List u8} (w : World σ)
    (hserves : Serves answer (inlineRequest args) 0 chunks)
    (hbytes : dumpBytes chunks = bytesOf d.words ++ trailing)
    (hlen : (dumpBytes chunks).length < 1073741824) {n : Nat} (hn : chunks.length ≤ n)
    (hn' : d.segments.length < n) :
    ∃ v, mlx5RscDump K w args none n = some v ∧
      v.out = w.out ++ d.lines (dumpBytes chunks).length := by
  obtain ⟨r, hr, ⟨htotal, data, hdata, hload⟩, hout⟩ := collect_served hK w hserves hlen
  have hrun : rscdumpCollect K w args 0 n = .exit r := by
    unfold rscdumpCollect at hr ⊢
    cases hs : collectStart K w args 0 with
    | exit r' => rwa [hs] at hr
    | again c =>
        rw [hs] at hr
        exact run_exit_mono hr hn
  have hwords := words_of_load (hload.trans hbytes)
  have hfits : 4 * d.words.length ≤ (dumpBytes chunks).length := by
    rw [hbytes, List.length_append, bytesOf_length]
    exact Nat.le_add_right _ _
  obtain ⟨walk, hwalk, -, hlines⟩ := dump_decoded hwords hfits (by omega)
  have hparse : parseResourceDump data ((dumpBytes chunks).length : Nat) n = .exit walk := by
    unfold parseResourceDump at hwalk ⊢
    cases hs : walkStart data ((dumpBytes chunks).length : Nat) with
    | exit r' => rwa [hs] at hwalk
    | again t =>
        rw [hs] at hwalk
        exact run_exit_mono hwalk hn'
  refine ⟨r.w.prints walk.trace.lines, ?_, ?_⟩
  · unfold mlx5RscDump collectDump
    dsimp only
    rw [hrun, Option.bind_some]
    dsimp only
    rw [hdata, htotal]
    dsimp only
    rw [hparse]
  · show r.w.out ++ walk.trace.lines = _
    rw [hout, hlines]
    rfl

/-- **`rscdump` prints the dump.** Where the device answers by the request alone and has the bytes
    of a dump for the one that is asked for, in chunks of any sizes and with anything behind them,
    the command returns 0, and prints its arguments and what the format says of each segment, in
    order, and nothing else. -/
theorem rscdump_prints {K : UmemSys σ} {answer : List u8 → List u8}
    (hK : Stateless K.toSys answer) {w v : World σ} {argv : List CStr} {args : Args}
    (hargs : parseArgs w ("rscdump".toList :: argv) = .ret args v) (hinline : args.umem = 0)
    {chunks : List Chunk} (hserves : Serves answer (inlineRequest args.withType) 0 chunks)
    {d : Dump} {trailing : List u8} (hbytes : dumpBytes chunks = bytesOf d.words ++ trailing)
    (hlen : (dumpBytes chunks).length < 1073741824) {n : Nat} (hn : chunks.length ≤ n)
    (hn' : d.segments.length < n) :
    ∃ u, doRscdump K w ("rscdump".toList :: argv) n = some (.ret 0 u) ∧
      u.out = w.out ++ [argsLine args.withType] ++ d.lines (dumpBytes chunks).length := by
  obtain ⟨-, rfl⟩ := parseArgs_fields hargs
  have hset : setupUmem K (v.print (argsLine args.withType)) args.withType =
      .ready none 0 (v.print (argsLine args.withType)) := by
    have hnone : args.withType.umem = 0 := by
      unfold Args.withType
      split_ifs <;> exact hinline
    unfold setupUmem
    rw [if_neg (not_not.mpr hnone)]
  obtain ⟨u, hdump, hout⟩ := mlx5RscDump_prints hK (v.print (argsLine args.withType)) hserves
    hbytes hlen hn hn'
  refine ⟨u, ?_, hout⟩
  unfold doRscdump
  rw [hargs]
  dsimp only
  rw [← argsLine, hset]
  dsimp only
  unfold dumpCommand
  rw [List.headD_cons, if_pos rfl, hdump]
  rfl

/-- The device with tokens, without umems. -/
def tokensUmem (dump : List u8 → List u8) (cut : Nat) : UmemSys Unit where
  toSys := tokens dump cut
  memalign s _ := (none, s)
  umemReg s _ _ := (-1, s)
  umemUnreg s _ := (0, s)

/-- The dump of `oneResource`, whatever is asked for. -/
def anyResource (_ : List u8) : List u8 := bytesOf oneResource.words

theorem oneResource_printed : ∃ n u, doRscdump (tokensUmem anyResource 7) ⟨(), []⟩
    ["rscdump".toList] n = some (.ret 0 u) ∧
      u.out = argsLine (Args.withType ⟨0, -1, 0, 0, 0⟩) :: oneResource.lines 60 := by
  have hlen : ∀ key, (anyResource key).length = 60 := fun _ =>
    show (bytesOf oneResource.words).length = 60 by decide
  obtain ⟨chunks, hserves, hbytes⟩ := tokens_serve anyResource (show 0 < 7 by decide) (by decide)
    (by rw [hlen]; decide) (Nat.zero_le _) (inlineRequest_wants (Args.withType ⟨0, -1, 0, 0, 0⟩))
  rw [List.drop_zero] at hbytes
  have htrailing : dumpBytes chunks = bytesOf oneResource.words ++ [] := by
    rw [hbytes, List.append_nil]
    rfl
  have hsize : (dumpBytes chunks).length = 60 := by rw [hbytes, hlen]
  have hargs : parseArgs (⟨(), []⟩ : World Unit) ("rscdump".toList :: []) =
      .ret ⟨0, -1, 0, 0, 0⟩ ⟨(), []⟩ := rfl
  obtain ⟨u, hu, hout⟩ := rscdump_prints (K := tokensUmem anyResource 7)
    (tokens_stateless anyResource 7) hargs rfl hserves htrailing (by omega)
    (n := chunks.length + 2) (Nat.le_add_right _ _) (show 1 < chunks.length + 2 by omega)
  refine ⟨_, u, hu, ?_⟩
  rw [hout, hsize]
  rfl

end Mlx5ctl.RscDump
