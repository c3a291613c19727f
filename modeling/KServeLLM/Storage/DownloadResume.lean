import KServeLLM.Storage.ChunkedDownload

namespace KServeLLM.Storage

variable (remote : RemoteFile)

def plannedBy (tr : List (Step Download Event Unit)) : List ChunkDescriptor :=
  tr.flatMap fun st => planned remote st.before st.call

def Resumable (tr : List (Step Download Event Unit)) (s : Download) (e : Event) : Prop :=
  ∀c∈planned remote s e,s.disk.complete c=true → ∀old∈plannedBy remote tr,
    old.index=c.index → remote.Serves old → old.expectedSize=c.expectedSize →
      old.interval=c.interval

instance instDecidableResumable (tr : List (Step Download Event Unit)) (s : Download) (e : Event) :
    Decidable (Resumable remote tr s e) :=
  inferInstanceAs (Decidable (∀c∈planned remote s e,_))

def Holds (disk : Disk) (c : ChunkDescriptor) : Prop :=
  remote.Serves c ∧ disk.chunk c.index=some (remote.range c)

def Origin (known : List ChunkDescriptor) (disk : Disk) : Prop := ∀i data,disk.chunk i=some data →
    ∃c∈known,c.index=i ∧ remote.Serves c ∧ data=remote.range c

def Filling (disk : Disk) (c : ChunkDescriptor) (p : Progress) : Prop :=
  ∀written rest,p=.receiving written rest → remote.Serves c ∧
    ∃file,disk.partials c.index=some file ∧ file++rest=remote.range c

structure Fetching (known : List ChunkDescriptor) (disk : Disk)
    (chunks toDownload : List ChunkDescriptor) (progress : Nat → Progress) : Prop where
  built : ∃size fuel,buildChunks size remote.fileSize fuel 0 0=some chunks
  announced : ∀c∈chunks,c∈known
  subset : ∀c∈toDownload,c∈chunks
  filling : ∀c∈toDownload,Filling remote disk c (progress c.index)
  fetched : ∀c∈toDownload,progress c.index=.done → Holds remote disk c
  kept : ∀c∈chunks,c∉toDownload → Holds remote disk c

def remainder : List ChunkDescriptor → Nat → List UInt8
  | [],_ => []
  | c::rest,copied => (remote.range c).drop copied++rest.flatMap remote.range

def PhaseInv (known : List ChunkDescriptor) (disk : Disk) : Phase → Prop
  | .downloading _ chunks toDownload progress =>
      Fetching remote known disk chunks toDownload progress
  | .creating chunks =>
      (∃size fuel,buildChunks size remote.fileSize fuel 0 0=some chunks) ∧
        ∀c∈chunks,Holds remote disk c
  | .assembling rest copied =>
      (∀c∈rest,Holds remote disk c) ∧
        ∃file,disk.tmp=some file ∧ file++remainder remote rest copied=remote.bytes
  | .finalizing => disk.tmp=some remote.bytes
  | .cleaning => disk.dest=some remote.bytes
  | .returned none => disk.dest=some remote.bytes
  | _ => True

structure Inv (known : List ChunkDescriptor) (s : Download) : Prop where
  origin : Origin remote known s.disk
  phase : PhaseInv remote known s.disk s.phase

theorem fileSize_toInt : remote.fileSize.toInt=remote.bytes.length :=
  Int64.toInt_ofNat_of_lt remote.fits

section

variable {remote}

theorem expectedSize_toInt {c : ChunkDescriptor} (serves : remote.Serves c) :
    c.expectedSize.toInt=c.stop.toInt+1-c.start.toInt := by
  obtain ⟨_,_,_⟩ := serves
  have fits := remote.fits
  have width : (c.stop-c.start).toInt=c.stop.toInt-c.start.toInt := by
    rw [Int64.toInt_sub]
    exact Int.bmod_eq_of_le (by omega) (by omega)
  have one : (1 : Int64).toInt=1 := rfl
  rw [ChunkDescriptor.expectedSize,Int64.toInt_add,Int.bmod_eq_of_le (by omega) (by omega)]
  omega

theorem range_length {c : ChunkDescriptor} (serves : remote.Serves c) :
    Int64.ofNat (remote.range c).length=c.expectedSize := by
  obtain ⟨low,nonempty,inside⟩ := serves
  have length : ((remote.range c).length)=c.stop.toInt+1-c.start.toInt :=
    Interval.slice_length low nonempty inside
  have fits := remote.fits
  apply Int64.toInt_inj.mp
  rw [expectedSize_toInt ⟨low,nonempty,inside⟩,Int64.toInt_ofNat_of_lt (by omega),length]

theorem Holds.of_interval {disk : Disk} {c old : ChunkDescriptor} (same : old.interval=c.interval)
    (serves : remote.Serves old) (file : disk.chunk c.index=some (remote.range old)) :
    Holds remote disk c := by
  have start : old.start.toInt=c.start.toInt := congrArg Interval.lo same
  have stop : old.stop.toInt=c.stop.toInt := congrArg Interval.hi same
  refine ⟨?_,by rw [file,RemoteFile.range,RemoteFile.range,same]⟩
  unfold RemoteFile.Serves at serves ⊢
  rwa [start,stop] at serves

end

structure WorkerSpec (disk disk' : Disk) (c : ChunkDescriptor) (p p' : Progress) : Prop where
  chunk_other : ∀j,j≠c.index → disk'.chunk j=disk.chunk j
  partial_other : ∀j,j≠c.index → disk'.partials j=disk.partials j
  chunk_same : disk'.chunk c.index=disk.chunk c.index ∨ Holds remote disk' c
  filling : Filling remote disk' c p'
  done : p'=.done → p=.done ∧ disk'=disk ∨ Holds remote disk' c

variable {error : DownloadError} {p' : Progress}

section

variable {remote} {disk : Disk} {c : ChunkDescriptor} {p : Progress}

theorem WorkerSpec.stay (h : Filling remote disk c p) : WorkerSpec remote disk disk c p p :=
  ⟨fun _ _ => rfl,fun _ _ => rfl,Or.inl rfl,h,fun done => Or.inl ⟨done,rfl⟩⟩

theorem WorkerSpec.fail : WorkerSpec remote disk disk c p (.failed error) :=
  ⟨fun _ _ => rfl,fun _ _ => rfl,Or.inl rfl,fun _ _ h => (by cases h),fun h => (by cases h)⟩

theorem WorkerSpec.setPartial {file : Option (List UInt8)}
    (filling : Filling remote (disk.setPartial c.index file) c p') (running : p'≠.done) :
    WorkerSpec remote disk (disk.setPartial c.index file) c p p' where
  chunk_other := fun _ _ => rfl
  partial_other := fun _ other => Function.update_of_ne other _ _
  chunk_same := Or.inl rfl
  filling := filling
  done := fun done => absurd done running

theorem WorkerSpec.discard :
    WorkerSpec remote disk (disk.setPartial c.index none) c p (.failed error) :=
  WorkerSpec.setPartial (fun _ _ h => by cases h) (by simp)

theorem WorkerSpec.rename {written : Nat} (h : Filling remote disk c (.receiving written [])) :
    WorkerSpec remote disk
      ((disk.setChunk c.index (disk.partials c.index)).setPartial c.index none) c
      (.receiving written []) .done := by
  obtain ⟨serves,_,stored,whole⟩ := h _ [] rfl
  have renamed : Holds remote
      ((disk.setChunk c.index (disk.partials c.index)).setPartial c.index none) c := by
    refine ⟨serves,?_⟩
    rw [List.append_nil] at whole
    rw [← whole,← stored]
    exact Function.update_self _ _ disk.chunk
  refine ⟨fun j other => ?_,fun j other => ?_,Or.inr renamed,fun _ _ h => (by cases h),
    fun _ => Or.inr renamed⟩
  · exact Function.update_of_ne other _ _
  · exact Function.update_of_ne other _ _

theorem workerStep_spec (e : WorkerEvent) (h : Filling remote disk c p) :
    WorkerSpec remote disk (workerStep remote disk c p e).1 c p
      (workerStep remote disk c p e).2 := by
  cases p with
  | waiting =>
    cases e with
    | unreachable text => exact WorkerSpec.fail
    | refused status => exact WorkerSpec.fail
    | answered =>
      rw [workerStep]
      by_cases serves : remote.Serves c
      · rw [if_pos serves]
        refine WorkerSpec.setPartial (fun written rest h => ?_) (by simp)
        obtain ⟨_,rfl⟩ := Progress.receiving.inj h
        exact ⟨serves,[],Function.update_self _ _ _,rfl⟩
      · rw [if_neg serves]
        exact WorkerSpec.fail
    | received | broken | ended | unrenamed => exact WorkerSpec.stay h
  | receiving written rest =>
    cases e with
    | received n =>
      refine WorkerSpec.setPartial (fun written' rest' moved => ?_) (by simp [workerStep])
      obtain ⟨_,rfl⟩ := Progress.receiving.inj moved
      obtain ⟨serves,file,stored,whole⟩ := h _ _ rfl
      refine ⟨serves,file++rest.take n,?_,?_⟩
      · rw [stored]
        exact Function.update_self _ _ _
      · rw [List.append_assoc,List.take_append_drop,whole]
    | broken text => exact WorkerSpec.discard
    | ended =>
      cases rest with
      | nil =>
        rw [workerStep]
        by_cases size : Int64.ofNat written≠c.expectedSize
        · rw [if_pos size]
          exact WorkerSpec.discard
        · rw [if_neg size]
          exact WorkerSpec.rename h
      | cons => exact WorkerSpec.stay h
    | unrenamed text =>
      cases rest with
      | nil =>
        rw [workerStep]
        by_cases size : Int64.ofNat written≠c.expectedSize
        · rw [if_pos size]
          exact WorkerSpec.discard
        · rw [if_neg size]
          exact WorkerSpec.fail
      | cons => exact WorkerSpec.stay h
    | unreachable | refused | answered => exact WorkerSpec.stay h
  | done => cases e <;> exact WorkerSpec.stay h
  | failed error => cases e <;> exact WorkerSpec.stay h

end

variable {s : Download}

section

variable {remote} {known : List ChunkDescriptor} {disk : Disk} {disk' : Disk}

theorem Holds.congr {c : ChunkDescriptor} (h : Holds remote disk c)
    (same : disk'.chunk c.index=disk.chunk c.index) : Holds remote disk' c :=
  ⟨h.1,same.trans h.2⟩

theorem Holds.not_lost {c d : ChunkDescriptor} {p : Progress}
    (spec : WorkerSpec remote disk disk' c p p') (same : d.index=c.index → d=c)
    (h : Holds remote disk d) : Holds remote disk' d := by
  by_cases index : d.index=c.index
  · obtain rfl := same index
    rcases spec.chunk_same with unchanged | made
    · exact h.congr unchanged
    · exact made
  · exact h.congr (spec.chunk_other _ index)

theorem Origin.worker {c : ChunkDescriptor} {p : Progress} (h : Origin remote known disk)
    (spec : WorkerSpec remote disk disk' c p p') (hc : c∈known) : Origin remote known disk' := by
  intro i data file
  by_cases index : i=c.index
  · subst index
    rcases spec.chunk_same with unchanged | made
    · exact h _ _ (unchanged ▸ file)
    · exact ⟨c,hc,rfl,made.1,Option.some.inj (file.symm.trans made.2)⟩
  · exact h i _ ((spec.chunk_other i index) ▸ file)

variable {chunks toDownload : List ChunkDescriptor} {progress : Nat → Progress}

theorem Fetching.worker {c : ChunkDescriptor}
    (h : Fetching remote known disk chunks toDownload progress) (hc : c∈toDownload)
    (spec : WorkerSpec remote disk disk' c (progress c.index) p') :
    Fetching remote known disk' chunks toDownload (Function.update progress c.index p') := by
  obtain ⟨_,_,built⟩ := h.built
  have same : ∀d∈chunks,d.index=c.index → d=c := fun d hd index =>
    buildChunks_index_inj built hd (h.subset c hc) index
  refine ⟨h.built,h.announced,h.subset,fun d hd => ?_,fun d hd done => ?_,fun d hd skipped => ?_⟩
  · by_cases index : d.index=c.index
    · obtain rfl := same d (h.subset d hd) index
      rw [Function.update_self]
      exact spec.filling
    · rw [Function.update_of_ne index]
      intro written rest moving
      obtain ⟨serves,file,stored,whole⟩ := h.filling d hd _ _ moving
      exact ⟨serves,file,(spec.partial_other _ index).trans stored,whole⟩
  · by_cases index : d.index=c.index
    · obtain rfl := same d (h.subset d hd) index
      rw [Function.update_self] at done
      rcases spec.done done with ⟨before,rfl⟩ | made
      · exact h.fetched d hd before
      · exact made
    · rw [Function.update_of_ne index] at done
      exact (h.fetched d hd done).not_lost spec (same d (h.subset d hd))
  · exact (h.kept d hd skipped).not_lost spec (same d hd)

variable {slots : Int64} {i : Nat}

theorem downloadStep_inv {e : WorkerEvent} (origin : Origin remote known disk)
    (h : Fetching remote known disk chunks toDownload progress) :
    Inv remote known (downloadStep remote disk slots chunks toDownload progress i e) := by
  unfold downloadStep
  split
  · exact ⟨origin,h⟩
  · next c found =>
    have hc : c∈toDownload := List.mem_of_find?_eq_some found
    obtain rfl : c.index=i := by simpa using List.find?_some found
    split
    · exact ⟨origin,h⟩
    · have spec := workerStep_spec e (h.filling c hc)
      exact ⟨origin.worker spec (h.announced c (h.subset c hc)),h.worker hc spec⟩

theorem Fetching.joined (h : Fetching remote known disk chunks toDownload progress)
    (ended : joinable toDownload progress=true)
    (clean : downloadErrors toDownload progress=[]) : ∀c∈chunks,Holds remote disk c := by
  intro c hc
  by_cases todo : c∈toDownload
  · apply h.fetched c todo
    have stopped := List.all_eq_true.mp ended c todo
    have quiet := List.filterMap_eq_nil_iff.mp clean c todo
    cases p : progress _ with
    | waiting => simp [p,Progress.isWaiting] at stopped
    | receiving written rest => simp [p,Progress.isReceiving] at stopped
    | done => rfl
    | failed error => simp [p,Progress.error] at quiet
  · exact h.kept c hc todo

theorem joinStep_inv (origin : Origin remote known disk)
    (h : Fetching remote known disk chunks toDownload progress) :
    Inv remote known (joinStep disk slots chunks toDownload progress) := by
  unfold joinStep
  split
  · next ended =>
    split
    · next clean => exact ⟨origin,h.built,h.joined ended clean⟩
    · exact ⟨origin,trivial⟩
  · exact ⟨origin,h⟩

variable {fuel : Nat}

theorem ranges_whole {chunks : List ChunkDescriptor} {size : Int64}
    (built : buildChunks size remote.fileSize fuel 0 0=some chunks)
    (holds : ∀c∈chunks,Holds remote disk c) : chunks.flatMap remote.range=remote.bytes := by
  have length := fileSize_toInt remote
  have chained := buildChunks_chained (by omega) built fun c hc =>
    ⟨(holds c hc).1.1,(holds c hc).1.2.1⟩
  have joined := chained.flatMap_slice remote.bytes le_rfl
  rw [List.flatMap_map,length] at joined
  have all : ((remote.bytes.length : Int)-0).toNat=remote.bytes.length := by omega
  rw [all,Int.toNat_zero,List.drop_zero,List.take_length] at joined
  exact joined

theorem create_inv {chunks : List ChunkDescriptor} (origin : Origin remote known disk)
    (h : PhaseInv remote known disk (.creating chunks)) :
    Inv remote known ⟨{disk with tmp := some []},.assembling chunks 0⟩ := by
  obtain ⟨⟨_,_,built⟩,holds⟩ := h
  refine ⟨origin,holds,[],rfl,?_⟩
  have whole := ranges_whole built holds
  cases chunks with
  | nil => exact whole
  | cons c rest => exact whole

theorem abandon_inv (origin : Origin remote known disk) :
    Inv remote known (abandon disk error) := ⟨origin,trivial⟩

theorem take_append_rest {α : Type} (l : List α) (n : Nat) :
    l.take n++l.drop (l.take n).length=l := by
  rw [List.length_take]
  rcases Nat.le_total n _ with short | long
  · rw [Nat.min_eq_left short,List.take_append_drop]
  · rw [Nat.min_eq_right long,List.take_of_length_le long,List.drop_length,List.append_nil]

variable {rest : List ChunkDescriptor} {copied : Nat}

theorem copyStep_inv {c : ChunkDescriptor} {n : Nat} (origin : Origin remote known disk)
    (h : PhaseInv remote known disk (.assembling (c::rest) copied)) :
    Inv remote known (copyStep disk c rest copied n) := by
  obtain ⟨holds,_,stored,whole⟩ := h
  rw [copyStep,(holds c List.mem_cons_self).2]
  refine ⟨origin,holds,_,rfl,?_⟩
  rw [← whole,stored]
  simp only [remainder,Option.getD_some,List.append_assoc,← List.drop_drop]
  rw [← List.append_assoc (List.take n _),take_append_rest]

theorem nextStep_inv {c : ChunkDescriptor} (origin : Origin remote known disk)
    (h : PhaseInv remote known disk (.assembling (c::rest) copied)) :
    Inv remote known (nextStep ⟨disk,.assembling (c::rest) copied⟩ c rest copied) := by
  have again := h
  obtain ⟨holds,file,stored,whole⟩ := h
  rw [nextStep,(holds c List.mem_cons_self).2]
  dsimp only
  split
  · next ended =>
    refine ⟨origin,fun d hd => holds d (List.mem_cons_of_mem c hd),file,stored,?_⟩
    rw [← whole,remainder,List.drop_of_length_le ended,List.nil_append]
    cases rest with
    | nil => rfl
    | cons d rest => rw [remainder,List.drop_zero,List.flatMap_cons]
  · exact ⟨origin,again⟩

variable {e : Event}

theorem assembleStep_inv (origin : Origin remote known disk)
    (h : PhaseInv remote known disk (.assembling rest copied)) :
    Inv remote known (assembleStep ⟨disk,.assembling rest copied⟩ rest copied e) := by
  cases rest with
  | nil =>
    cases e with
    | next =>
      obtain ⟨_,_,stored,whole⟩ := h
      refine ⟨origin,?_⟩
      rw [remainder,List.append_nil] at whole
      exact stored.trans (congrArg _ whole)
    | _ => exact ⟨origin,h⟩
  | cons c rest =>
    cases e with
    | unopened text =>
      rw [assembleStep]
      split
      · exact abandon_inv origin
      · exact ⟨origin,h⟩
    | copy n => exact copyStep_inv origin h
    | next => exact nextStep_inv origin h
    | fail text => exact abandon_inv origin
    | _ => exact ⟨origin,h⟩

theorem removeChunk_inv (origin : Origin remote known disk)
    (h : disk.dest=some remote.bytes) : Inv remote known ⟨disk.setChunk i none,.cleaning⟩ := by
  refine ⟨fun j data file => ?_,h⟩
  by_cases index : j=i
  · subst index
    have gone : (disk.setChunk j none).chunk j=none := Function.update_self _ _ _
    rw [gone] at file
    cases file
  · have same : (disk.setChunk i none).chunk j=disk.chunk j := Function.update_of_ne index _ _
    exact origin j _ (same.symm.trans file)

variable {known' : List ChunkDescriptor} {phase : Phase}

theorem planStep_inv {d : ParallelDownloader} (origin : Origin remote known disk)
    (grow : ∀c∈known,c∈known')
    (adds : ∀c∈(buildChunks d.chunkSize remote.fileSize fuel 0 0).getD [],c∈known')
    (resume : ∀c∈(buildChunks d.chunkSize remote.fileSize fuel 0 0).getD [],
      disk.complete c=true → ∀old∈known,old.index=c.index → remote.Serves old →
        old.expectedSize=c.expectedSize → old.interval=c.interval)
    (stay : PhaseInv remote known' disk phase) :
    Inv remote known' (planStep remote ⟨disk,phase⟩ d fuel) := by
  have kept : Origin remote known' disk := fun i data file => by
    obtain ⟨c,hc,rest⟩ := origin i _ file
    exact ⟨c,grow c hc,rest⟩
  unfold planStep
  split
  · exact ⟨kept,stay⟩
  · next chunks built =>
    rw [built] at adds resume
    refine ⟨kept,⟨_,_,built⟩,adds,fun c hc => (List.mem_filter.mp hc).1,?_,?_,?_⟩
    · intro c _ written rest moving
      cases moving
    · intro c _ done
      cases done
    · intro c hc skipped
      have complete : disk.complete c=true := by
        by_contra missing
        exact skipped (List.mem_filter.mpr ⟨hc,by simpa using missing⟩)
      have found := complete
      unfold Disk.complete at found
      split at found
      · next data file =>
        obtain ⟨old,hold,index,serves,rfl⟩ := origin _ _ file
        have size : old.expectedSize=c.expectedSize :=
          (range_length serves).symm.trans (of_decide_eq_true found)
        exact Holds.of_interval (resume c hc complete old hold index serves size) serves file
      · cases found

theorem PhaseInv.mono (grow : ∀c∈known,c∈known') (h : PhaseInv remote known disk phase) :
    PhaseInv remote known' disk phase := by
  cases phase with
  | downloading slots chunks toDownload progress =>
    exact {h with announced := fun c hc => grow c (Fetching.announced h c hc)}
  | returned error => cases error <;> exact h
  | _ => exact h

theorem Inv.mono (grow : ∀c∈known,c∈known') (h : Inv remote known s) : Inv remote known' s := by
  refine ⟨fun i data file => ?_,h.phase.mono grow⟩
  obtain ⟨c,hc,rest⟩ := h.origin i _ file
  exact ⟨c,grow c hc,rest⟩

theorem Inv.step (h : Inv remote known s) (grow : ∀c∈known,c∈known')
    (adds : ∀c∈planned remote s e,c∈known')
    (resume : ∀c∈planned remote s e,s.disk.complete c=true → ∀old∈known,
      old.index=c.index → remote.Serves old → old.expectedSize=c.expectedSize →
        old.interval=c.interval) :
    Inv remote known' (downloadChunked remote s e) := by
  have later := h.mono grow
  obtain ⟨disk,phase⟩ := s
  have origin : Origin remote known' disk := later.origin
  cases phase with
  | idle => cases e <;> first | exact later | exact ⟨origin,trivial⟩
  | starting d => cases e <;> first | exact later | exact ⟨origin,trivial⟩
  | startingChunks d => cases e <;> first | exact later | exact ⟨origin,trivial⟩
  | planning d =>
    cases e with
    | plan fuel => exact planStep_inv h.origin grow adds resume trivial
    | begin d => exact ⟨origin,trivial⟩
    | _ => exact later
  | downloading slots chunks toDownload progress =>
    cases e with
    | worker i e => exact downloadStep_inv origin later.phase
    | join => exact joinStep_inv origin later.phase
    | begin d => exact ⟨origin,trivial⟩
    | _ => exact later
  | creating chunks =>
    cases e with
    | create => exact create_inv origin later.phase
    | fail text => exact abandon_inv origin
    | begin d => exact ⟨origin,trivial⟩
    | _ => exact later
  | assembling rest copied =>
    cases e with
    | begin d => exact ⟨origin,trivial⟩
    | _ => exact assembleStep_inv origin later.phase
  | finalizing =>
    cases e with
    | rename => exact ⟨origin,later.phase⟩
    | fail text => exact abandon_inv origin
    | begin d => exact ⟨origin,trivial⟩
    | _ => exact later
  | cleaning =>
    cases e with
    | removeChunk i => exact removeChunk_inv origin later.phase
    | removePartial i => exact ⟨origin,later.phase⟩
    | cleaned => exact ⟨origin,later.phase⟩
    | begin d => exact ⟨origin,trivial⟩
    | _ => exact later
  | returned error => cases e <;> first | exact later | exact ⟨origin,trivial⟩

end

theorem plannedBy_snoc (tr : List (Step Download Event Unit)) (s : Download) (e : Event) :
    plannedBy remote (tr++[stepOf (step remote) s e])=plannedBy remote tr++planned remote s e := by
  simp [plannedBy,stepOf]

theorem run_inv {dest : Option (List UInt8)} {events : List Event}
    (resumable : EachCall (step remote) (fresh dest) events (Resumable remote)) :
    Inv remote (plannedBy remote (trace (step remote) (fresh dest) events))
      (run (step remote) (fresh dest) events) := by
  refine run_of_eachCall _ (fun tr s => Inv _ (plannedBy _ tr) s)
    _ _ ?_ ?_ _ resumable
  · exact ⟨fun i data file => (by cases file),trivial⟩
  · intro tr s e inv meets
    rw [plannedBy_snoc]
    exact inv.step (fun c hc => List.mem_append_left _ hc)
      (fun c hc => List.mem_append_right _ hc) meets

def Faithful (s : Download) : Prop := s.phase=.returned none → s.disk.dest=some remote.bytes

theorem Inv.faithful {known : List ChunkDescriptor} (h : Inv remote known s) :
    Faithful remote s := by
  intro returned
  have written := h.phase
  rw [returned] at written
  exact written

theorem downloadChunked_faithful (dest : Option (List UInt8)) (events : List Event)
    (resumable : EachCall (step remote) (fresh dest) events (Resumable remote)) :
    Always (step remote) (fresh dest) events (fun _ s => Faithful remote s) :=
  fun pre hp => (run_inv remote (resumable.of_prefix (step remote) hp)).faithful

def tenBytes : RemoteFile := ⟨[0,1,2,3,4,5,6,7,8,9],by decide⟩

def interruptedRun : List Event :=
  [.begin ⟨4,4⟩,.mkdir,.mkdir,.plan 4,.worker 1 .answered,.worker 1 (.received 4),.worker 1 .ended]

def resumedRun (chunkSize : Int64) (missing : List Nat) (chunks : Nat) : List Event :=
  [.begin ⟨4,chunkSize⟩,.mkdir,.mkdir,.plan 4]++
  missing.flatMap (fun i => [.worker i .answered,.worker i (.received 10),.worker i .ended])++
  [.join,.create]++(List.replicate chunks [.copy 10,.next]).flatten++[.next,.rename,.cleaned]

theorem downloadChunked_faithful_resumed :
    (run (step tenBytes) (fresh none) (interruptedRun++resumedRun 4 [0,2] 3)).disk.dest=
      some tenBytes.bytes := by
  have resumable : EachCall (step tenBytes) (fresh none)
      (interruptedRun++resumedRun 4 [0,2] 3) (Resumable tenBytes) := by decide +kernel
  exact downloadChunked_faithful tenBytes none _ resumable _ (List.prefix_refl _) rfl

theorem downloadChunked_mixed :
    (run (step tenBytes) (fresh none) (interruptedRun++resumedRun 6 [0] 2)).phase=.returned none ∧
    (run (step tenBytes) (fresh none) (interruptedRun++resumedRun 6 [0] 2)).disk.dest=
      some [0,1,2,3,4,5,4,5,6,7] ∧
    ¬Faithful tenBytes (run (step tenBytes) (fresh none) (interruptedRun++resumedRun 6 [0] 2)) := by
  have returned : (run (step tenBytes) (fresh none)
      (interruptedRun++resumedRun 6 [0] 2)).phase=.returned none := rfl
  have mixed : (run (step tenBytes) (fresh none)
      (interruptedRun++resumedRun 6 [0] 2)).disk.dest=some [0,1,2,3,4,5,4,5,6,7] := by
    decide +kernel
  refine ⟨returned,mixed,fun faithful => ?_⟩
  rw [faithful returned] at mixed
  exact absurd mixed (by decide)

end KServeLLM.Storage
