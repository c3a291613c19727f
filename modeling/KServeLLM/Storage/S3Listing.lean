import KServeLLM.Storage.PullPaths

namespace KServeLLM.Storage.PullPaths

open GoString GoPath Effects

def Lists (objects : List GoString) (key : GoString) (a : BucketAnswers) : Prop :=
  (∀page∈a.pages,∃contents,page=.ok contents) → ∀k,k∈a.keys ↔ k∈objects ∧ key <+: k

def Fetched (a : BucketAnswers) (bucket key destPath objKey file : GoString) : Prop :=
  ∃contents,.ok contents∈a.pages ∧ ∃answers,(some objKey,answers)∈contents ∧
    (pullObject bucket key objKey destPath answers).result=.ok () ∧
    .create file∈(pullObject bucket key objKey destPath answers).ops

def Under (key k : GoString) : Prop := k=key ∨ key++['/'] <+: k

structure FolderPulled (cwd objects : List GoString) (key : GoString)
    (fetched : GoString → GoString → Prop) : Prop where
  some : ∃k file,fetched k file
  exactly : ∀k,(∃file,fetched k file) ↔ k∈objects ∧ Under key k
  apart : ∀k file k' file',fetched k file → fetched k' file' → k≠k' →
    resolve cwd file≠resolve cwd file'

structure FolderListed (cwd objects : List GoString) (key destPath : GoString) : Prop where
  some : ∃k∈objects,key <+: k
  under : ∀k∈objects,key <+: k → Under key k
  apart : ∀k∈objects,∀k'∈objects,key <+: k → key <+: k' → k≠k' →
    resolve cwd (joinPath [destPath,relPath key k])≠
      resolve cwd (joinPath [destPath,relPath key k'])

variable {a : BucketAnswers} {uri bucket key destPath : GoString}

theorem Under.listed {k : GoString} (h : Under key k) : key <+: k := by
  rcases h with rfl | below
  · exact List.prefix_rfl
  · exact (List.prefix_append key _).trans below

theorem pullObject_creates {objKey : GoString} {answers : ObjectAnswers}
    (ok : (pullObject bucket key objKey destPath answers).result=.ok ()) {file : GoString} :
    .create file∈(pullObject bucket key objKey destPath answers).ops ↔
      file=joinPath [destPath,relPath key objKey] := by
  obtain ⟨_,made,later⟩ := result_bind_ok ok
  obtain ⟨_,created,answered⟩ := result_bind_ok later
  obtain ⟨_,started,copied⟩ := result_bind_ok answered
  rw [pullObject,(bind_of_ok made _).1,(bind_of_ok created _).1,(bind_of_ok started _).1,
    perform_ok made,perform_ok created,require_ok started,require_ok copied]
  simp

theorem pages_of_ok (parts : cut '/' (trimPrefix uri "s3://".toList)=some (bucket,key))
    (ok : (s3Pull a uri destPath).result=.ok ()) {page} (among : page∈a.pages) :
    ∃contents,page=.ok contents ∧ ∀k answers,(some k,answers)∈contents →
      (pullObject bucket key k destPath answers).result=.ok () := by
  rw [s3Pull,parts] at ok
  obtain ⟨_,-,loop⟩ := result_bind_ok ok
  obtain ⟨contents,answered,rounds⟩ := result_bind_ok (result_forM_ok loop _ among)
  cases page with
  | error t => cases answered
  | ok found =>
    obtain rfl : found=contents := Except.ok.inj answered
    exact ⟨found,rfl,fun k answers mem => result_forM_ok rounds _ mem⟩

theorem fetched_iff (parts : cut '/' (trimPrefix uri "s3://".toList)=some (bucket,key))
    (ok : (s3Pull a uri destPath).result=.ok ()) {k file : GoString} :
    Fetched a bucket key destPath k file ↔ k∈a.keys ∧ file=joinPath [destPath,relPath key k] := by
  have mem_keys : k∈a.keys ↔ ∃contents,.ok contents∈a.pages ∧ ∃answers,
      (some k,answers)∈contents := by
    constructor
    · intro mem
      obtain ⟨page,among,shown⟩ := List.mem_flatMap.mp mem
      cases page with
      | error t => cases shown
      | ok contents =>
        obtain ⟨obj,mem,named⟩ := List.mem_filterMap.mp shown
        exact ⟨contents,among,obj.2,named ▸ mem⟩
    · rintro ⟨_,among,_,mem⟩
      exact List.mem_flatMap.mpr ⟨_,among,List.mem_filterMap.mpr ⟨_,mem,rfl⟩⟩
  constructor
  · rintro ⟨contents,among,answers,mem,done,created⟩
    exact ⟨mem_keys.mpr ⟨contents,among,answers,mem⟩,(pullObject_creates done).mp created⟩
  · rintro ⟨mem,rfl⟩
    obtain ⟨contents,among,answers,mem⟩ := mem_keys.mp mem
    obtain ⟨contents',same,rounds⟩ := pages_of_ok parts ok among
    obtain rfl : contents=contents' := Except.ok.inj same
    have done := rounds k _ mem
    exact ⟨contents,among,answers,mem,done,(pullObject_creates done).mpr rfl⟩

theorem folderPulled_iff {cwd : List GoString} {objects : List GoString}
    (parts : cut '/' (trimPrefix uri "s3://".toList)=some (bucket,key))
    (ok : (s3Pull a uri destPath).result=.ok ()) (lists : Lists objects key a) :
    FolderPulled cwd objects key (Fetched a bucket key destPath) ↔
      FolderListed cwd objects key destPath := by
  have listed := lists fun page among => (pages_of_ok parts ok among).imp fun _ h => h.1
  have fetched k file : Fetched a bucket key destPath k file ↔
      (k∈objects ∧ key <+: k) ∧ file=joinPath [destPath,relPath key k] := by
    rw [fetched_iff parts ok,listed]
  constructor
  · rintro ⟨⟨k,_,h⟩,exactly,apart⟩
    refine ⟨⟨k,((fetched k _).mp h).1⟩,fun k mem pre => ?_,fun k mem k' mem' pre pre' => ?_⟩
    · exact ((exactly k).mp ⟨_,(fetched k _).mpr ⟨⟨mem,pre⟩,rfl⟩⟩).2
    · exact apart k _ k' _ ((fetched k _).mpr ⟨⟨mem,pre⟩,rfl⟩)
        ((fetched k' _).mpr ⟨⟨mem',pre'⟩,rfl⟩)
  · rintro ⟨⟨k,mem,pre⟩,under,apart⟩
    refine ⟨⟨k,_,(fetched k _).mpr ⟨⟨mem,pre⟩,rfl⟩⟩,fun k => ⟨?_,?_⟩,?_⟩
    · rintro ⟨_,h⟩
      obtain ⟨⟨mem,pre⟩,-⟩ := (fetched k _).mp h
      exact ⟨mem,under k mem pre⟩
    · rintro ⟨mem,under⟩
      exact ⟨_,(fetched k _).mpr ⟨⟨mem,under.listed⟩,rfl⟩⟩
    · intro k file k' file' h h'
      obtain ⟨⟨mem,pre⟩,rfl⟩ := (fetched k _).mp h
      obtain ⟨⟨mem',pre'⟩,rfl⟩ := (fetched k' _).mp h'
      exact apart k mem k' mem' pre pre'

theorem s3Pull_granted (destPath : GoString)
    (parts : cut '/' (trimPrefix uri "s3://".toList)=some (bucket,key)) (keys : List GoString) :
    (s3Pull (grantingBucket keys) uri destPath).result=.ok () := by
  rw [s3Pull,parts]
  refine (bind_of_ok (a := ()) rfl _).2.trans (forM_of_ok fun page among => ?_).2
  rw [List.mem_singleton.mp among]
  refine (bind_of_ok (a := keys.map fun key => (some key,grantedObject)) rfl _).2.trans
    (forM_of_ok fun obj mem => ?_).2
  obtain ⟨k,_,rfl⟩ := List.mem_map.mp mem
  rfl

theorem s3Pull_folder_iff (cwd objects : List GoString) (uri destPath : GoString) :
    (∀bucket key,cut '/' (trimPrefix uri "s3://".toList)=some (bucket,key) →
      ∀a,Lists objects key a → (s3Pull a uri destPath).result=.ok () →
        FolderPulled cwd objects key (Fetched a bucket key destPath)) ↔
    ∀bucket key,cut '/' (trimPrefix uri "s3://".toList)=some (bucket,key) →
      FolderListed cwd objects key destPath := by
  refine forall_congr' fun bucket => forall_congr' fun key => forall_congr' fun parts => ?_
  constructor
  · intro all
    have lists : Lists objects key (grantingBucket (objects.filter (key.isPrefixOf ·))) := by
      intro _ k
      rw [grantingBucket_keys,List.mem_filter,List.isPrefixOf_iff_prefix]
    have ok := s3Pull_granted destPath parts (objects.filter (key.isPrefixOf ·))
    exact (folderPulled_iff parts ok lists).mp (all _ lists ok)
  · intro listed a lists ok
    exact (folderPulled_iff parts ok lists).mpr listed

theorem grantingBucket_fetches {keys : List GoString} {bucket key destPath : GoString}
    {k : GoString} (mem : k∈keys) : Fetched (grantingBucket keys) bucket key destPath k
      (joinPath [destPath,relPath key k]) := by
  refine ⟨_,List.mem_singleton.mpr rfl,grantedObject,List.mem_map_of_mem mem,rfl,?_⟩
  exact (pullObject_creates rfl).mpr rfl

theorem listing_is_no_folder :
    ((s3Pull (grantingBucket []) "s3://b/m".toList sampleDest).result=.ok () ∧
      ∀k file,¬Fetched (grantingBucket []) ['b'] ['m'] sampleDest k file) ∧
    ((s3Pull (grantingBucket ["m-old/x".toList]) "s3://b/m".toList sampleDest).result=.ok () ∧
      ¬Under ['m'] "m-old/x".toList ∧
      Fetched (grantingBucket ["m-old/x".toList]) ['b'] ['m'] sampleDest "m-old/x".toList
        "/mnt/models/-old/x".toList) ∧
    (s3Pull (grantingBucket [['m'],"m/m".toList]) "s3://b/m".toList sampleDest).result=.ok () ∧
      Fetched (grantingBucket [['m'],"m/m".toList]) ['b'] ['m'] sampleDest ['m']
        "/mnt/models/m".toList ∧
      Fetched (grantingBucket [['m'],"m/m".toList]) ['b'] ['m'] sampleDest "m/m".toList
        "/mnt/models/m".toList := by
  have parts : cut '/' (trimPrefix "s3://b/m".toList "s3://".toList)=some (['b'],['m']) := by decide
  have granted := s3Pull_granted sampleDest parts
  refine ⟨⟨granted _,?_⟩,⟨granted _,?_,?_⟩,granted _,?_,?_⟩
  · rintro k _ ⟨_,among,_,mem,-⟩
    rw [Except.ok.inj (List.mem_singleton.mp among)] at mem
    cases mem
  · unfold Under
    decide
  · exact grantingBucket_fetches (by simp)
  · exact grantingBucket_fetches (by simp)
  · exact grantingBucket_fetches (by simp)

end KServeLLM.Storage.PullPaths
