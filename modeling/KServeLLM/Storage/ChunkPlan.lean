import KServeLLM.Framework.GoTypes
import KServeLLM.Framework.Intervals

namespace KServeLLM.Storage

def defaultChunkSize : Int64 := 64*1024*1024
def defaultDownloadWorkers : Int64 := 4

def parseDigits : List Char → Nat → Option Nat
  | [],value => some value
  | c::cs,value => if c.isDigit then parseDigits cs (10*value+(c.toNat - '0'.toNat)) else none

def parseMagnitude (digits : List Char) : Option Nat :=
  if digits=[] then none else parseDigits digits 0

def parseInt (s : String) : Option Int64 :=
  match s.toList with
  | '-'::digits => (parseMagnitude digits).bind fun n =>
      if n ≤ 2^63 then some (Int64.ofInt (-n)) else none
  | '+'::digits => (parseMagnitude digits).bind fun n =>
      if n<2^63 then some (Int64.ofNat n) else none
  | digits => (parseMagnitude digits).bind fun n =>
      if n<2^63 then some (Int64.ofNat n) else none

structure Environment where
  (downloadWorkers chunkSizeMB : String)

structure ParallelDownloader where
  (workers chunkSize : Int64)

def newParallelDownloader (env : Environment) : ParallelDownloader :=
  let workers :=
    if env.downloadWorkers≠"" then
      match parseInt env.downloadWorkers with
      | some n => if 0 < n ∧ n ≤ 32 then n else defaultDownloadWorkers
      | none => defaultDownloadWorkers
    else defaultDownloadWorkers
  let chunkSize :=
    if env.chunkSizeMB≠"" then
      match parseInt env.chunkSizeMB with
      | some n => if 0 < n then n*1024*1024 else defaultChunkSize
      | none => defaultChunkSize
    else defaultChunkSize
  ⟨workers,chunkSize⟩

structure ChunkDescriptor where
  index : Nat
  (start stop : Int64)
  deriving DecidableEq

def ChunkDescriptor.interval (c : ChunkDescriptor) : Interval := ⟨c.start.toInt,c.stop.toInt⟩

section

variable (chunkSize fileSize : Int64)

def chunkEnd (offset : Int64) : Int64 :=
  let stop := offset+chunkSize-1
  if fileSize ≤ stop then fileSize-1 else stop

def buildChunks : Nat → Nat → Int64 → Option (List ChunkDescriptor)
  | 0,_,_ => none
  | fuel+1,i,offset =>
      if offset < fileSize then
        (buildChunks fuel (i+1) (offset+chunkSize)).map
          (⟨i,offset,chunkEnd chunkSize fileSize offset⟩::·)
      else some []

def Planned : Prop := ∃fuel chunks,buildChunks chunkSize fileSize fuel 0 0=some chunks ∧
    (∀(k : Nat) (c : ChunkDescriptor),chunks[k]?=some c → c.index=k) ∧
    Partitions 0 fileSize.toInt (chunks.map ChunkDescriptor.interval)

def Reaches (offset : Int) : Prop :=
  ∃m : Nat,fileSize.toInt ≤ offset+m*chunkSize.toInt ∧ offset+m*chunkSize.toInt<2^63

end

theorem succ_chunks (m : Nat) (size : Int) : ((m+1 : Nat) : Int)*size=m*size+size := by
  rw [Nat.cast_succ,Int.add_mul,Int.one_mul]

section

variable {chunkSize fileSize : Int64} {offset : Int64}

theorem Reaches.positive (inside : offset < fileSize)
    (h : Reaches chunkSize fileSize offset.toInt) : 0 < chunkSize.toInt := by
  obtain ⟨m,_,_⟩ := h
  rw [Int64.lt_iff_toInt_lt] at inside
  by_contra negative
  have := mul_nonpos_of_nonneg_of_nonpos (Int.natCast_nonneg m) (not_lt.mp negative)
  omega

theorem Reaches.next (low : 0 ≤ offset.toInt) (inside : offset < fileSize)
    (h : Reaches chunkSize fileSize offset.toInt) :
    (offset+chunkSize).toInt=offset.toInt+chunkSize.toInt ∧
      Reaches chunkSize fileSize (offset+chunkSize).toInt := by
  have positive := h.positive inside
  obtain ⟨m,_,_⟩ := h
  rw [Int64.lt_iff_toInt_lt] at inside
  cases m with
  | zero =>
    omega
  | succ m =>
    have unfolded := succ_chunks m chunkSize.toInt
    have rest : 0 ≤ m*chunkSize.toInt := mul_nonneg (Int.natCast_nonneg m) (le_of_lt positive)
    have exact := toInt_add_of_lt low (le_of_lt positive) (by omega)
    exact ⟨exact,m,by omega,by omega⟩

theorem chunkEnd_toInt (low : 0 ≤ offset.toInt) (inside : offset < fileSize)
    (positive : 0 < chunkSize.toInt)
    (exact : (offset+chunkSize).toInt=offset.toInt+chunkSize.toInt) :
    (chunkEnd chunkSize fileSize offset).toInt=
      min (fileSize.toInt-1) (offset.toInt+chunkSize.toInt-1) := by
  have top := (offset+chunkSize).toInt_lt
  have last := fileSize.toInt_lt
  rw [Int64.lt_iff_toInt_lt] at inside
  have one : (1 : Int64).toInt=1 := rfl
  have stop : (offset+chunkSize-1).toInt=offset.toInt+chunkSize.toInt-1 := by
    rw [Int64.toInt_sub,exact]
    exact Int.bmod_eq_of_le (by omega) (by omega)
  have final : (fileSize-1).toInt=fileSize.toInt-1 := by
    rw [Int64.toInt_sub]
    exact Int.bmod_eq_of_le (by omega) (by omega)
  unfold chunkEnd
  by_cases past : fileSize ≤ offset+chunkSize-1
  · rw [if_pos past]
    rw [Int64.le_iff_toInt_le] at past
    omega
  · rw [if_neg past]
    rw [Int64.le_iff_toInt_le] at past
    omega

theorem buildChunks_done {fuel i : Nat} (ended : ¬offset < fileSize) :
    buildChunks chunkSize fileSize (fuel+1) i offset=some [] := if_neg ended

theorem buildChunks_more {fuel i : Nat} (inside : offset < fileSize) :
    buildChunks chunkSize fileSize (fuel+1) i offset=
      (buildChunks chunkSize fileSize fuel (i+1) (offset+chunkSize)).map
        (⟨i,offset,chunkEnd chunkSize fileSize offset⟩::·) := if_pos inside

theorem buildChunks_chain (m i : Nat) (offset : Int64) (low : 0 ≤ offset.toInt)
    (reached : fileSize.toInt ≤ offset.toInt+m*chunkSize.toInt)
    (fits : offset.toInt+m*chunkSize.toInt<2^63) :
    ∃chunks,buildChunks chunkSize fileSize (m+1) i offset=some chunks ∧
      Chain (min offset.toInt fileSize.toInt) (chunks.map ChunkDescriptor.interval)
        fileSize.toInt := by
  induction m generalizing i offset with
  | zero =>
    have ended : ¬offset < fileSize := by
      rw [Int64.lt_iff_toInt_lt]
      omega
    refine ⟨[],buildChunks_done ended,?_⟩
    show min _ _=fileSize.toInt
    omega
  | succ m ih =>
    by_cases inside : offset < fileSize
    · have reaches : Reaches chunkSize fileSize offset.toInt := ⟨m+1,reached,fits⟩
      have positive := reaches.positive inside
      have exact := (reaches.next low inside).1
      have stop := chunkEnd_toInt low inside positive exact
      rw [Int64.lt_iff_toInt_lt] at inside
      have unfolded := succ_chunks m chunkSize.toInt
      obtain ⟨chunks,built,tail⟩ := ih _ (offset+chunkSize) (by omega) (by omega) (by omega)
      refine ⟨⟨i,offset,chunkEnd chunkSize fileSize offset⟩::chunks,?_,?_⟩
      · rw [buildChunks_more (Int64.lt_iff_toInt_lt.mpr inside),built]
        rfl
      · rw [min_eq_left (le_of_lt inside)]
        have nonempty : offset.toInt ≤ (chunkEnd chunkSize fileSize offset).toInt := by omega
        refine ⟨rfl,nonempty,?_⟩
        have joint : (chunkEnd chunkSize fileSize offset).toInt+1=
            min (offset+chunkSize).toInt fileSize.toInt := by omega
        exact joint ▸ tail
    · refine ⟨[],buildChunks_done inside,?_⟩
      rw [Int64.lt_iff_toInt_lt] at inside
      show min _ _=fileSize.toInt
      omega

variable {chunks : List ChunkDescriptor} {fuel i : Nat}

theorem buildChunks_add
    (k : Nat) (built : buildChunks chunkSize fileSize fuel i offset=some chunks) :
    buildChunks chunkSize fileSize (fuel+k) i offset=some chunks := by
  induction fuel generalizing i offset chunks with
  | zero => cases built
  | succ fuel ih =>
    rw [Nat.add_right_comm]
    by_cases inside : offset < fileSize
    · rw [buildChunks_more inside] at built
      obtain ⟨_,continued,rfl⟩ := Option.map_eq_some_iff.mp built
      rw [buildChunks_more inside,ih continued]
      rfl
    · rw [buildChunks_done inside] at built
      rw [buildChunks_done inside,built]

theorem buildChunks_unique {fuel fuel' i : Nat} {chunks chunks' : List ChunkDescriptor}
    (built : buildChunks chunkSize fileSize fuel i offset=some chunks)
    (built' : buildChunks chunkSize fileSize fuel' i offset=some chunks') : chunks=chunks' := by
  have left := buildChunks_add fuel' built
  have right := buildChunks_add fuel built'
  rw [Nat.add_comm] at right
  exact Option.some.inj (left.symm.trans right)

theorem buildChunks_index (built : buildChunks chunkSize fileSize fuel i offset=some chunks)
    (k : Nat) {c : ChunkDescriptor} (hc : chunks[k]?=some c) : c.index=i+k := by
  induction fuel generalizing i offset chunks k with
  | zero => cases built
  | succ fuel ih =>
    by_cases inside : offset < fileSize
    · rw [buildChunks_more inside] at built
      obtain ⟨_,continued,rfl⟩ := Option.map_eq_some_iff.mp built
      cases k with
      | zero =>
        obtain rfl := Option.some.inj hc
        rfl
      | succ k =>
        have := ih continued k hc
        omega
    · rw [buildChunks_done inside] at built
      obtain rfl := Option.some.inj built
      simp at hc

theorem buildChunks_index_inj {fuel : Nat}
    (built : buildChunks chunkSize fileSize fuel 0 0=some chunks) {c d : ChunkDescriptor}
    (hc : c∈chunks) (hd : d∈chunks) (same : c.index=d.index) : c=d := by
  obtain ⟨k,atK⟩ := List.mem_iff_getElem?.mp hc
  obtain ⟨l,atL⟩ := List.mem_iff_getElem?.mp hd
  have left := buildChunks_index built k atK
  have right := buildChunks_index built l atL
  obtain rfl : k=l := by omega
  exact Option.some.inj (atK.symm.trans atL)

theorem buildChunks_reaches (positive : 0 < chunkSize.toInt) (size : 0 < fileSize.toInt)
    (low : 0 ≤ offset.toInt) (built : buildChunks chunkSize fileSize fuel i offset=some chunks)
    (starts : ∀c∈chunks,0 ≤ c.start.toInt) : Reaches chunkSize fileSize offset.toInt := by
  induction fuel generalizing i offset chunks with
  | zero => cases built
  | succ fuel ih =>
    by_cases inside : offset < fileSize
    · rw [buildChunks_more inside] at built
      obtain ⟨rest,continued,rfl⟩ := Option.map_eq_some_iff.mp built
      have later : ∀c∈rest,0 ≤ c.start.toInt := fun c hc => starts c (List.mem_cons_of_mem _ hc)
      by_cases fits : offset.toInt+chunkSize.toInt<2^63
      · have exact := toInt_add_of_lt low (le_of_lt positive) fits
        obtain ⟨m,_,_⟩ := ih (by omega) continued later
        have unfolded := succ_chunks m chunkSize.toInt
        exact ⟨m+1,by omega,by omega⟩
      · -- the wrapped offset is below zero, so that the loop describes it
        have wrapped := toInt_add_wraps _ _ (not_lt.mp fits)
        have again : offset+chunkSize < fileSize := by
          rw [Int64.lt_iff_toInt_lt]
          omega
        cases fuel with
        | zero => cases continued
        | succ fuel =>
          rw [buildChunks_more again] at continued
          obtain ⟨_,_,rfl⟩ := Option.map_eq_some_iff.mp continued
          have := later _ List.mem_cons_self
          exact absurd this (by simpa using wrapped)
    · refine ⟨0,?_,?_⟩
      · rw [Int64.lt_iff_toInt_lt] at inside
        omega
      · have := offset.toInt_lt
        omega

theorem buildChunks_positive {fuel : Nat}
    (size : 0 < fileSize.toInt) (built : buildChunks chunkSize fileSize fuel 0 0=some chunks)
    (regular : ∀c∈chunks,0 ≤ c.start.toInt ∧ c.start.toInt ≤ c.stop.toInt) :
    0 < chunkSize.toInt := by
  have inside : 0 < fileSize := Int64.lt_iff_toInt_lt.mpr size
  cases fuel with
  | zero => cases built
  | succ fuel =>
    rw [buildChunks_more inside,Int64.zero_add] at built
    obtain ⟨_,continued,rfl⟩ := Option.map_eq_some_iff.mp built
    by_contra notPositive
    rcases lt_or_eq_of_le (not_lt.mp notPositive) with negative | zero
    · have again : chunkSize < fileSize := Int64.lt_iff_toInt_lt.mpr (by omega)
      cases fuel with
      | zero => cases continued
      | succ fuel =>
        rw [buildChunks_more again] at continued
        obtain ⟨_,_,rfl⟩ := Option.map_eq_some_iff.mp continued
        have second := (regular ⟨1,chunkSize,chunkEnd chunkSize fileSize chunkSize⟩ (by simp)).1
        exact absurd second (not_le.mpr negative)
    · obtain rfl : chunkSize=0 := Int64.toInt_inj.mp zero
      have before : ¬fileSize ≤ 0+0-1 := by
        rw [Int64.le_iff_toInt_le]
        exact not_le.mpr (lt_of_lt_of_le (by decide) (le_of_lt size))
      have first := (regular ⟨0,0,chunkEnd 0 fileSize 0⟩ (by simp)).2
      rw [chunkEnd,if_neg before] at first
      exact absurd first (by decide)

theorem planned_iff (size : 0 < fileSize.toInt) :
    Planned chunkSize fileSize ↔ Reaches chunkSize fileSize 0 := by
  constructor
  · intro planned
    obtain ⟨_,chunks,built,_,parts⟩ := planned
    have regular : ∀c∈chunks,0 ≤ c.start.toInt ∧ c.start.toInt ≤ c.stop.toInt := fun c hc =>
      have mem := List.mem_map_of_mem (f := ChunkDescriptor.interval) hc
      ⟨(parts.within _ mem).1,parts.nonempty c.interval mem⟩
    have positive := buildChunks_positive size built regular
    exact buildChunks_reaches positive size le_rfl built fun c hc => (regular c hc).1
  · rintro ⟨m,reached,fits⟩
    obtain ⟨chunks,built,whole⟩ := buildChunks_chain m 0 0 le_rfl reached fits
    have start : min (0 : Int64).toInt fileSize.toInt=0 := min_eq_left (le_of_lt size)
    rw [start] at whole
    refine ⟨m+1,chunks,built,fun k c hc => ?_,whole.partitions⟩
    rw [buildChunks_index built k hc,Nat.zero_add]

theorem buildChunks_chained {fuel : Nat}
    (size : 0 ≤ fileSize.toInt) (built : buildChunks chunkSize fileSize fuel 0 0=some chunks)
    (regular : ∀c∈chunks,0 ≤ c.start.toInt ∧ c.start.toInt ≤ c.stop.toInt) :
    Chain 0 (chunks.map ChunkDescriptor.interval) fileSize.toInt := by
  have start : min (0 : Int64).toInt fileSize.toInt=0 := min_eq_left size
  have reaches : Reaches chunkSize fileSize 0 := by
    rcases lt_or_eq_of_le size with positive | zero
    · exact buildChunks_reaches (buildChunks_positive positive built regular) positive le_rfl
        built fun c hc => (regular c hc).1
    · exact ⟨0,by simp [← zero],by simp⟩
  obtain ⟨m,reached,fits⟩ := reaches
  obtain ⟨_,again,chained⟩ := buildChunks_chain m 0 0 le_rfl reached fits
  rw [start,← buildChunks_unique built again] at chained
  exact chained

end

theorem downloader_planned_iff (env : Environment) (fileSize : Int64) (size : 0 < fileSize.toInt) :
    Planned (newParallelDownloader env).chunkSize fileSize ↔
      Reaches (newParallelDownloader env).chunkSize fileSize 0 := planned_iff size

theorem downloader_planned_default : Planned (newParallelDownloader ⟨"",""⟩).chunkSize 1073741824 :=
  (downloader_planned_iff ⟨"",""⟩ 1073741824 (by decide)).mpr ⟨16,by decide,by decide⟩

theorem buildChunks_zero (fuel i : Nat) (fileSize : Int64) (inside : 0 < fileSize) :
    buildChunks 0 fileSize fuel i 0=none := by
  induction fuel generalizing i with
  | zero => rfl
  | succ fuel ih =>
    rw [buildChunks_more inside,Int64.add_zero,ih]
    rfl

theorem downloader_planned_endless : parseInt "17592186044416"=some 17592186044416 ∧
    (newParallelDownloader ⟨"","17592186044416"⟩).chunkSize=0 ∧
    (∀fuel,buildChunks (newParallelDownloader ⟨"","17592186044416"⟩).chunkSize 1 fuel 0 0=none) ∧
    ¬Planned (newParallelDownloader ⟨"","17592186044416"⟩).chunkSize 1 := by
  have zero : (newParallelDownloader ⟨"","17592186044416"⟩).chunkSize=0 := by decide
  rw [zero]
  have endless := fun fuel => buildChunks_zero fuel 0 1 (by decide)
  refine ⟨by decide,rfl,endless,?_⟩
  rintro ⟨_,_,built,_⟩
  rw [endless] at built
  cases built

end KServeLLM.Storage
