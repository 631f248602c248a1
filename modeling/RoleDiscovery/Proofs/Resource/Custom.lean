import RoleDiscovery.Proofs.Resource.Codec
import RoleDiscovery.Proofs.Resource.Document
import RoleDiscovery.Proofs.Topology.Codec

/-!
# The codecs of the custom resources

Groups and profiles are read back from what they are written as, with all that they consist of,
although empty lists and what is not set are left out. This holds whatever the types of metadata,
variables, containers and volumes are, if the values of them that the resource embeds are read back.

Results:

* `GroupSpec.readsBack_codecOf`, `ProfileSpec.readsBack_codecOf`: specifications are read back.
* `GroupSpec.kept_codecOf`, `ProfileSpec.kept_codecOf`: nothing of them gets lost in a text.
* `Codec.Entry.Local`, `Codec.decode_custom_filter`: fields of other names do not count.
* `Codec.Faithful`, `Codec.faithful_custom`: resources are read back past their version and kind,
  from the document and from its text, and what was written anew once is not changed again.
* `RoleBasedGroup.Embeds`, `RuntimeProfile.Embeds`: what is asked of the values of other types.
* `custom_resources_read_back`: groups and profiles are read back.
-/

namespace RoleDiscovery

open Codec Codec.Entry

/-! ## Parts -/

instance WorkloadSpec.lawful_codec : WorkloadSpec.codec.Lawful :=
  lawful_strict inferInstance (by decide)

instance WorkloadSpec.legible_codec : WorkloadSpec.codec.Legible :=
  legible_strict inferInstance (by decide)

instance LeaderWorkerTemplate.lawful_codec : LeaderWorkerTemplate.codec.Lawful :=
  lawful_strict inferInstance (by decide)

instance LeaderWorkerTemplate.legible_codec : LeaderWorkerTemplate.codec.Legible :=
  legible_strict inferInstance (by decide)

section

/-! Each part is read back if the embedded values are, and nothing of it gets lost in a text if
nothing of these does with the levels that are left to them. -/

variable {ε κ ν : Type} {env : Codec ε} {container : Codec κ} {volume : Codec ν} {depth : Nat}

namespace ContainerOverride

variable {override : ContainerOverride ε}

theorem readsBack_codecOf (h : ∀ e ∈ override.env, env.decode (env.encode e) = some e) :
    (codecOf env).ReadsBack override := by
  refine readsBack_strict ?_ (by show ["name", "args", "env"].Nodup; decide)
  exact readsBack_map ContainerOverride.mk (Lawful.readsBack override)
    |>.seq (readsBack_nonempty "args" fun arg _ => lawful_text.decode_encode arg)
    |>.seq (readsBack_nonempty "env" h)

theorem kept_codecOf (h : ∀ e ∈ override.env, env.Kept (depth + 1) e) :
    (codecOf env).Kept (depth + 3) override := by
  refine kept_strict ?_ (by show ["name", "args", "env"].Nodup; decide)
  exact kept_map ContainerOverride.mk (kept_required "name" (kept_text _ _))
    |>.seq (kept_nonempty "args" fun arg _ => kept_text arg _)
    |>.seq (kept_nonempty "env" h)

end ContainerOverride

namespace EngineRuntime

variable {reference : EngineRuntime ε}

theorem readsBack_codecOf (h : ∀ override ∈ reference.containers, ∀ e ∈ override.env,
    env.decode (env.encode e) = some e) : (codecOf env).ReadsBack reference := by
  refine readsBack_strict ?_ (by show ["profileName", "containers"].Nodup; decide)
  exact readsBack_map EngineRuntime.mk (Lawful.readsBack reference)
    |>.seq (readsBack_nonempty "containers" fun override hm =>
      (ContainerOverride.readsBack_codecOf (h override hm)).decode_encode)

theorem kept_codecOf (h : ∀ override ∈ reference.containers, ∀ e ∈ override.env,
    env.Kept (depth + 1) e) : (codecOf env).Kept (depth + 5) reference := by
  refine kept_strict ?_ (by show ["profileName", "containers"].Nodup; decide)
  exact kept_map EngineRuntime.mk (kept_required "profileName" (kept_text _ _))
    |>.seq (kept_nonempty "containers" fun override hm =>
      ContainerOverride.kept_codecOf (h override hm))

end EngineRuntime

namespace RoleSpec

variable {role : RoleSpec ε}

theorem readsBack_codecOf (h : ∀ reference ∈ role.engineRuntimes,
    ∀ override ∈ reference.containers, ∀ e ∈ override.env,
      env.decode (env.encode e) = some e) : (codecOf env).ReadsBack role := by
  refine readsBack_strict ?_ (by
    show ["name", "replicas", "workload", "leaderWorkerSet", "engineRuntimes"].Nodup
    decide)
  exact readsBack_map RoleSpec.mk (Lawful.readsBack role)
    |>.seq (Lawful.readsBack role) |>.seq (Lawful.readsBack role) |>.seq (Lawful.readsBack role)
    |>.seq (readsBack_nonempty "engineRuntimes" fun reference hm =>
      (EngineRuntime.readsBack_codecOf (h reference hm)).decode_encode)

theorem kept_codecOf (h : ∀ reference ∈ role.engineRuntimes,
    ∀ override ∈ reference.containers, ∀ e ∈ override.env, env.Kept (depth + 1) e) :
    (codecOf env).Kept (depth + 7) role := by
  have hworkload : WorkloadSpec.codec.Kept (depth + 6) role.workload :=
    WorkloadSpec.legible_codec.kept _ _ (by show 1 < depth + 6; omega)
  have htemplate : LeaderWorkerTemplate.codec.Kept (depth + 6) role.leaderWorkerSet :=
    LeaderWorkerTemplate.legible_codec.kept _ _ (by show 1 < depth + 6; omega)
  refine kept_strict ?_ (by
    show ["name", "replicas", "workload", "leaderWorkerSet", "engineRuntimes"].Nodup
    decide)
  exact kept_map RoleSpec.mk (kept_required "name" (kept_text _ _))
    |>.seq (kept_optional "replicas" fun n _ => legible_int32.kept n _ (Nat.succ_pos _))
    |>.seq (kept_defaulted "workload" _ hworkload)
    |>.seq (kept_defaulted "leaderWorkerSet" _ htemplate)
    |>.seq (kept_nonempty "engineRuntimes" fun reference hm =>
      EngineRuntime.kept_codecOf (h reference hm))

end RoleSpec

namespace GroupSpec

variable {spec : GroupSpec ε}

theorem readsBack_codecOf (h : ∀ role ∈ spec.roles, ∀ reference ∈ role.engineRuntimes,
    ∀ override ∈ reference.containers, ∀ e ∈ override.env,
      env.decode (env.encode e) = some e) : (codecOf env).ReadsBack spec := by
  refine readsBack_strict ?_ (by show ["roles"].Nodup; decide)
  have hroles : (list (RoleSpec.codecOf env)).ReadsBack spec.roles :=
    readsBack_list fun role hm => (RoleSpec.readsBack_codecOf (h role hm)).decode_encode
  exact readsBack_map GroupSpec.mk (readsBack_defaulted "roles" _ hroles.decode_encode)

theorem kept_codecOf (h : ∀ role ∈ spec.roles, ∀ reference ∈ role.engineRuntimes,
    ∀ override ∈ reference.containers, ∀ e ∈ override.env, env.Kept (depth + 1) e) :
    (codecOf env).Kept (depth + 9) spec := by
  refine kept_strict ?_ (by show ["roles"].Nodup; decide)
  exact kept_map GroupSpec.mk (kept_defaulted "roles" _ (kept_list fun role hm =>
    RoleSpec.kept_codecOf (h role hm)))

end GroupSpec

namespace ProfileSpec

variable {spec : ProfileSpec κ ν}

theorem readsBack_codecOf
    (hcontainers : ∀ c ∈ spec.initContainers ++ spec.containers,
      container.decode (container.encode c) = some c)
    (hvolumes : ∀ v ∈ spec.volumes, volume.decode (volume.encode v) = some v) :
    (codecOf container volume).ReadsBack spec := by
  refine readsBack_strict ?_ (by
    show ["initContainers", "containers", "volumes"].Nodup
    decide)
  obtain ⟨hinit, hmain⟩ := List.forall_mem_append.1 hcontainers
  exact readsBack_map ProfileSpec.mk
      (readsBack_defaulted "initContainers" _ (readsBack_list hinit).decode_encode)
    |>.seq (readsBack_defaulted "containers" _ (readsBack_list hmain).decode_encode)
    |>.seq (readsBack_defaulted "volumes" _ (readsBack_list hvolumes).decode_encode)

theorem kept_codecOf
    (hcontainers : ∀ c ∈ spec.initContainers ++ spec.containers, container.Kept (depth + 1) c)
    (hvolumes : ∀ v ∈ spec.volumes, volume.Kept (depth + 1) v) :
    (codecOf container volume).Kept (depth + 3) spec := by
  refine kept_strict ?_ (by
    show ["initContainers", "containers", "volumes"].Nodup
    decide)
  obtain ⟨hinit, hmain⟩ := List.forall_mem_append.1 hcontainers
  exact kept_map ProfileSpec.mk (kept_defaulted "initContainers" _ (kept_list hinit))
    |>.seq (kept_defaulted "containers" _ (kept_list hmain))
    |>.seq (kept_defaulted "volumes" _ (kept_list hvolumes))

end ProfileSpec

end

/-! ## Fields that do not count -/

namespace Codec.Entry

variable {α β σ : Type}

/-- What an entry reads depends on its own fields alone. -/
class Local (entry : Entry σ α) : Prop where
  read_filter : ∀ {keep : String → Bool}, (∀ name ∈ entry.names, keep name = true) →
    ∀ fields, entry.read (fields.filter fun field => keep field.1) = entry.read fields

theorem occurrences_filter {name : String} {keep : String → Bool} (h : keep name = true)
    (fields : List (String × Json)) :
    Json.occurrences name (fields.filter fun field => keep field.1) =
      Json.occurrences name fields := by
  rw [Json.occurrences, Json.occurrences, List.filterMap_filter]
  refine List.filterMap_congr fun field _ => ?_
  by_cases hkeep : keep field.1 = true
  · exact if_pos hkeep
  · have hname : field.1 ≠ name := fun hname => hkeep (hname ▸ h)
    exact (if_neg hkeep).trans (if_neg hname).symm

instance local_pure (a : α) : (pure a : Entry σ α).Local where
  read_filter _ _ := rfl

instance local_seq {f : Entry σ (α → β)} {x : Entry σ α} [hf : f.Local] [hx : x.Local] :
    (f <*> x).Local where
  read_filter {keep} hkeep fields := by
    rw [names_seq, List.forall_mem_append] at hkeep
    show (do
      let g ← f.read (fields.filter fun field => keep field.1)
      let a ← x.read (fields.filter fun field => keep field.1)
      return g a : Option β) = _
    rw [hf.read_filter hkeep.1, hx.read_filter hkeep.2]
    rfl

instance local_map {x : Entry σ α} (f : α → β) [x.Local] : (f <$> x).Local :=
  local_seq (f := pure f)

instance local_required (name : String) (item : Codec α) (get : σ → α) :
    (required name item get).Local where
  read_filter {keep} hkeep fields := by
    show (last? name item.decode (fields.filter fun field => keep field.1)).join = _
    rw [last?, occurrences_filter (hkeep name (List.mem_singleton_self name))]
    rfl

end Codec.Entry

/-! ## Version and kind -/

namespace Codec

variable {α : Type}

/-- A document written anew. -/
def rewrite? (codec : Codec α) (value : Json) : Option Json :=
  (codec.decode value).map codec.encode

/-- A text written anew. -/
def rewriteText? (codec : Codec α) (text : String) : Option String :=
  (codec.ofJson? text).map fun a => (codec.encode a).compact

/-- Resources are read back from their documents, and from the texts of these if nothing of them
gets lost there. -/
structure Faithful (codec : Codec α) (document : α → Json) (restored kept : α → Prop) : Prop where
  /-- A resource is written as its document. -/
  encode_eq : codec.encode = document
  /-- A resource is read back from its document. -/
  decode_encode : ∀ a, restored a → codec.decode (codec.encode a) = some a
  /-- A resource is read back from the text of its document. -/
  ofJson?_compact : ∀ a, restored a → kept a →
    codec.ofJson? (codec.encode a).compact = some a
  /-- Version and kind do not count in a document, and neither do fields that are not known. -/
  decode_filter : ∀ fields, codec.decode (.object fields) =
    codec.decode (.object (fields.filter fun field => field.1 ∈ ["metadata", "spec"]))
  /-- Whatever a document is read as, it is read as the same when it is written anew. -/
  decode_rewrite? : ∀ value, (∀ a, codec.decode value = some a → restored a) →
    (codec.rewrite? value).bind codec.decode = codec.decode value
  /-- A document that was written anew is not changed again. -/
  rewrite?_rewrite? : ∀ value, (∀ a, codec.decode value = some a → restored a) →
    (codec.rewrite? value).bind codec.rewrite? = codec.rewrite? value
  /-- Whatever a text is read as, it is read as the same when it is written anew. -/
  ofJson?_rewriteText? : ∀ text, (∀ a, codec.ofJson? text = some a → restored a ∧ kept a) →
    (codec.rewriteText? text).bind codec.ofJson? = codec.ofJson? text
  /-- A text that was written anew is not changed again. -/
  rewriteText?_rewriteText? : ∀ text,
    (∀ a, codec.ofJson? text = some a → restored a ∧ kept a) →
      (codec.rewriteText? text).bind codec.rewriteText? = codec.rewriteText? text

/-- What is read as something that is read back is read as before when it is written anew, and not
changed again. -/
theorem rewritten {β : Type} {read : β → Option α} {write : α → β} {b : β}
    (h : ∀ a, read b = some a → read (write a) = some a) :
    ((read b).map write).bind read = read b ∧
      (((read b).map write).bind fun other => (read other).map write) = (read b).map write := by
  cases ha : read b with
  | none => exact ⟨rfl, rfl⟩
  | some a =>
    have hread := h a ha
    exact ⟨hread, congrArg (Option.map write) hread⟩

variable {kind : String} {entry : Entry α α} {a : α}

/-- Version and kind, which are written in front of the fields of a custom resource, do not stand in
the way of reading them. -/
theorem decode_custom [hnamed : entry.Named] (h : entry.ReadsBack a a)
    (hn : ("apiVersion" :: "kind" :: entry.names).Nodup) :
    (custom kind entry).decode ((custom kind entry).encode a) = some a := by
  obtain ⟨hversion, hrest⟩ := List.nodup_cons.1 hn
  obtain ⟨hkind, hnames⟩ := List.nodup_cons.1 hrest
  have hwritten : ((("apiVersion", .text customApiVersion) :: ("kind", .text kind) ::
      entry.write a).map Prod.fst).Nodup :=
    hn.sublist (((hnamed.names_write a).cons_cons "kind").cons_cons "apiVersion")
  have hread := h hnames
    [("apiVersion", .text customApiVersion), ("kind", .text kind)] [] (by
      simp only [List.append_nil, List.forall_mem_cons, List.not_mem_nil, false_implies,
        implies_true, and_true]
      exact ⟨fun hm => hversion (List.mem_cons_of_mem _ hm), hkind⟩)
  rw [List.append_nil] at hread
  show (strictFields? entry.names (.object (("apiVersion", .text customApiVersion) ::
    ("kind", .text kind) :: entry.write a))).bind entry.read = some a
  rw [strictFields?_of_nodup hwritten]
  exact hread

/-- Nor do they in the text of the resource: they are passed over. -/
theorem ofJson?_custom [entry.Named] (h : entry.ReadsBack a a) (hkept : entry.Kept 127 a)
    (hn : ("apiVersion" :: "kind" :: entry.names).Nodup) (hwrite : entry.write a ≠ []) :
    (custom kind entry).ofJson? ((custom kind entry).encode a).compact = some a := by
  obtain ⟨hversion, hrest⟩ := List.nodup_cons.1 hn
  obtain ⟨hkind, hnames⟩ := List.nodup_cons.1 hrest
  have hskipped : ∀ row ∈ [("apiVersion", customApiVersion), ("kind", kind)],
      (Shape.record entry.fields).use row.1 = .skipped := by
    simp only [List.forall_mem_cons, List.not_mem_nil, false_implies, implies_true, and_true]
    exact ⟨Shape.use_of_not_mem fun hm => hversion (List.mem_cons_of_mem _ hm),
      Shape.use_of_not_mem hkind⟩
  have hdocument : (custom kind entry).encode a =
      .object (Json.leading [("apiVersion", customApiVersion), ("kind", kind)] (entry.write a)) :=
    rfl
  have hread : Json.parseAs? (.record entry.fields) ((custom kind entry).encode a).compact =
      some (.object (entry.write a)) := by
    rw [hdocument]
    exact Json.read?_leading hskipped hwrite (hkept.record hnames)
  show (Json.parseAs? (.record entry.fields) _).bind (strict entry).decode = some a
  rw [hread]
  exact (readsBack_strict h hnames).decode_encode

/-- Fields of other names do not count in a custom resource. -/
theorem decode_custom_filter [hlocal : entry.Local] {keep : String → Bool}
    (hkeep : ∀ name ∈ entry.names, keep name = true) (fields : List (String × Json)) :
    (custom kind entry).decode (.object (fields.filter fun field => keep field.1)) =
      (custom kind entry).decode (.object fields) := by
  have hall : (entry.names.all fun name => (Json.occurrences name
      (fields.filter fun field => keep field.1)).length ≤ 1) =
      entry.names.all fun name => (Json.occurrences name fields).length ≤ 1 := by
    rw [Bool.eq_iff_iff, List.all_eq_true, List.all_eq_true]
    refine forall₂_congr fun name hm => ?_
    rw [occurrences_filter (hkeep name hm)]
  show (strictFields? entry.names _).bind entry.read = (strictFields? entry.names _).bind entry.read
  rw [strictFields?, strictFields?, hall]
  split_ifs
  · exact hlocal.read_filter hkeep fields
  · rfl

/-- Custom resources are faithful if what their entries write is read back and kept. -/
theorem faithful_custom [entry.Named] [entry.Local] {document : α → Json}
    {restored kept : α → Prop} (hnames : entry.names = ["metadata", "spec"])
    (hwrite : ∀ a, entry.write a ≠ []) (hdocument : (custom kind entry).encode = document)
    (hrestored : ∀ a, restored a → entry.ReadsBack a a)
    (hkept : ∀ a, kept a → entry.Kept 127 a) :
    (custom kind entry).Faithful document restored kept := by
  have hn : ("apiVersion" :: "kind" :: entry.names).Nodup := by
    rw [hnames]
    decide
  have hdecode : ∀ a, restored a →
      (custom kind entry).decode ((custom kind entry).encode a) = some a :=
    fun a ha => decode_custom (hrestored a ha) hn
  have hread : ∀ a, restored a → kept a →
      (custom kind entry).ofJson? ((custom kind entry).encode a).compact = some a :=
    fun a ha hk => ofJson?_custom (hrestored a ha) (hkept a hk) hn (hwrite a)
  exact
    { encode_eq := hdocument
      decode_encode := hdecode
      ofJson?_compact := hread
      decode_filter := fun fields => by
        have hkeep : ∀ name ∈ entry.names, decide (name ∈ ["metadata", "spec"]) = true := by
          rw [hnames]
          exact fun name hm => decide_eq_true hm
        exact (decode_custom_filter hkeep fields).symm
      decode_rewrite? := fun value h => (rewritten fun a ha => hdecode a (h a ha)).1
      rewrite?_rewrite? := fun value h => (rewritten fun a ha => hdecode a (h a ha)).2
      ofJson?_rewriteText? := fun text h =>
        (rewritten fun a ha => hread a (h a ha).1 (h a ha).2).1
      rewriteText?_rewriteText? := fun text h =>
        (rewritten fun a ha => hread a (h a ha).1 (h a ha).2).2 }

end Codec

/-! ## Resources -/

/-- Metadata and all variables of a group are as told. -/
structure RoleBasedGroup.Embeds {μ ε : Type} (p : μ → Prop) (q : ε → Prop)
    (group : RoleBasedGroup μ ε) : Prop where
  metadata : p group.metadata
  env : ∀ role ∈ group.spec.roles, ∀ reference ∈ role.engineRuntimes,
    ∀ override ∈ reference.containers, ∀ e ∈ override.env, q e

/-- Metadata and all containers and volumes of a profile are as told. -/
structure RuntimeProfile.Embeds {μ κ ν : Type} (p : μ → Prop) (q : κ → Prop) (r : ν → Prop)
    (profile : RuntimeProfile μ κ ν) : Prop where
  metadata : p profile.metadata
  containers : ∀ c ∈ profile.spec.initContainers ++ profile.spec.containers, q c
  volumes : ∀ v ∈ profile.spec.volumes, r v

/-- Whatever types are embedded in groups and profiles: a resource is written as its document, in
which unset values and empty lists are left out, and is read back from it if the embedded values are
read back from theirs. The same holds of the text of the document if nothing of the embedded values
gets lost in it; of the 128 levels that a text may have they can use what is left to them. So all
that is read may be written and read again: nothing changes, and neither does what is written. -/
theorem custom_resources_read_back {μ ε κ ν : Type} (metadata : Codec μ) (env : Codec ε)
    (container : Codec κ) (volume : Codec ν) :
    (RoleBasedGroup.codecOf metadata env).Faithful (RoleBasedGroup.document metadata env)
      (RoleBasedGroup.Embeds (fun m => metadata.decode (metadata.encode m) = some m)
        fun e => env.decode (env.encode e) = some e)
      (RoleBasedGroup.Embeds (metadata.Kept 127) (env.Kept 119)) ∧
    (RuntimeProfile.codecOf metadata container volume).Faithful
      (RuntimeProfile.document metadata container volume)
      (RuntimeProfile.Embeds (fun m => metadata.decode (metadata.encode m) = some m)
        (fun c => container.decode (container.encode c) = some c)
        fun v => volume.decode (volume.encode v) = some v)
      (RuntimeProfile.Embeds (metadata.Kept 127) (container.Kept 125) (volume.Kept 125)) := by
  refine ⟨faithful_custom rfl (fun _ => List.cons_ne_nil _ _)
    (RoleBasedGroup.encode_codecOf metadata env) (fun group h => ?_) fun group h => ?_,
    faithful_custom rfl (fun _ => List.cons_ne_nil _ _)
      (RuntimeProfile.encode_codecOf metadata container volume) (fun profile h => ?_)
      fun profile h => ?_⟩
  · exact readsBack_map RoleBasedGroup.mk (readsBack_required "metadata" h.metadata)
      |>.seq (readsBack_required "spec" (GroupSpec.readsBack_codecOf h.env).decode_encode)
  · exact kept_map RoleBasedGroup.mk (kept_required "metadata" h.metadata)
      |>.seq (kept_required "spec" (GroupSpec.kept_codecOf h.env))
  · exact readsBack_map RuntimeProfile.mk (readsBack_required "metadata" h.metadata)
      |>.seq (readsBack_required "spec"
        (ProfileSpec.readsBack_codecOf h.containers h.volumes).decode_encode)
  · exact kept_map RuntimeProfile.mk (kept_required "metadata" h.metadata)
      |>.seq (kept_required "spec"
        (ProfileSpec.kept_codecOf h.containers h.volumes))

/-- A group with a role that sets all there is and one that sets nothing. -/
def unevenGroup : RoleBasedGroup where
  metadata :=
    { name := some "llm"
      creationTimestamp := some ⟨⟨2024, 5, 1, by decide⟩, 12, 30, 0, by decide⟩ }
  spec.roles :=
    [{ name := "prefill"
       replicas := some (-1)
       workload.kind := some .leaderWorkerSet
       leaderWorkerSet.size := some 4
       engineRuntimes :=
         [{ profileName := "tools"
            containers :=
              [{ name := "agent", args := ["-v"], env := [{ name := "MODE" }] },
                { name := "engine" }] },
          { profileName := "bare" }] },
     { name := "decode" }]

/-- A profile with a container, which has a variable and a terminal, and no volumes. -/
def agentProfile : RuntimeProfile where
  metadata := { name := some "tools" }
  spec.containers :=
    [{ name := "agent"
       env := some [{ name := "MODE", value := some "\"fast\"" }]
       others := ⟨[("tty", .bool true)], [("tty", .bool true)], by decide +kernel⟩ }]

/-- A text for the profile with a foreign version and kind, with fields that are not known, and with
lists that are left out. -/
def foreignText : String :=
  "\x7b\"apiVersion\": 2, \"kind\": [], \"note\": [1e400], \"spec\": \x7b\"containers\":
    [\x7b\"name\": \"agent\", \"image\": null, \"tty\": true,
      \"env\": [\x7b\"value\": \"\\u0022fast\\\"\", \"name\": \"MODE\", \"unit\": 1\x7d],
      \"comment\": [1e400]\x7d]\x7d,
    \"metadata\": \x7b\"name\": \"tools\"\x7d\x7d"

theorem custom_resources_read_back_of_foreign :
    RoleBasedGroup.codec.ofJson? (RoleBasedGroup.codec.encode unevenGroup).compact =
        some unevenGroup ∧
      RuntimeProfile.codec.ofJson? foreignText = some agentProfile ∧
      (RuntimeProfile.codec.rewriteText? foreignText).bind RuntimeProfile.codec.ofJson? =
        some agentProfile ∧
      (RuntimeProfile.codec.rewriteText? foreignText).bind RuntimeProfile.codec.rewriteText? =
        RuntimeProfile.codec.rewriteText? foreignText := by
  obtain ⟨hgroup, hprofile⟩ := custom_resources_read_back ObjectMeta.codec EnvVar.codec
    Container.codec Volume.codec
  have hforeign : RuntimeProfile.codec.ofJson? foreignText = some agentProfile := by
    decide +kernel
  have hembeds : ∀ profile, RuntimeProfile.codec.ofJson? foreignText = some profile →
      profile.Embeds (fun m => ObjectMeta.codec.decode (ObjectMeta.codec.encode m) = some m)
          (fun c => Container.codec.decode (Container.codec.encode c) = some c)
          (fun v => Volume.codec.decode (Volume.codec.encode v) = some v) ∧
        profile.Embeds (ObjectMeta.codec.Kept 127) (Container.codec.Kept 125)
          (Volume.codec.Kept 125) := by
    intro profile hread
    obtain rfl := Option.some.inj (hforeign.symm.trans hread)
    exact ⟨⟨by decide +kernel, by decide +kernel, by decide +kernel⟩,
      ⟨by decide +kernel, by decide +kernel, by decide +kernel⟩⟩
  exact ⟨hgroup.ofJson?_compact unevenGroup
      ⟨by decide +kernel, fun _ _ _ _ _ _ e _ => EnvVar.lawful_codec.decode_encode e⟩
      ⟨by decide +kernel, by decide +kernel⟩,
    hforeign, (hprofile.ofJson?_rewriteText? foreignText hembeds).trans hforeign,
    hprofile.rewriteText?_rewriteText? foreignText hembeds⟩

end RoleDiscovery
