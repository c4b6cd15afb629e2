import BrainLink.Proofs.Members
import BrainLink.Proofs.Rising
import BrainLink.Proofs.Writing
import Mathlib.Data.Set.Card

/-
  What is known of a project: the keys of its devices, and
  which adapter drives which of them.

  Key definitions include:
    * `Project.Houses`
    * `Project.HasKey`
    * `Project.IsDrivenBy`
    * `DeviceKeys.Describes`

  Main statements:
    * `DeviceKeys.ofDevices_congr`
    * `Project.mem_devices_iff`
    * `DeviceKeys.describes_ofProject`
    * `keys_of_project`

  The keys are known by the devices of the project, and the
  devices by what can be looked up in it. So neither the order
  of rooms nor that of devices matters.
-/

namespace BrainLink

------------------------------------------------------------
-- Devices
------------------------------------------------------------

namespace DeviceKeys

variable {devices others : List Device}
variable {adapter key : String}

theorem contains_ofDevices :
    (ofDevices devices).contains key = true ↔
      ∃ device ∈ devices, device.key = key := by
  unfold contains ofDevices
  rw [List.contains_iff_mem, mem_risingTexts, List.mem_map]

theorem mem_adapterKeys :
    key ∈ adapterKeys devices adapter ↔
      ∃ device ∈ devices,
        device.adapter = some adapter ∧ device.key = key := by
  unfold adapterKeys
  rw [mem_risingTexts, List.mem_map]
  simp only [List.mem_filter, beq_iff_eq, and_assoc]

/- The keys of an adapter are found under its name. -/
theorem forAdapter_ofDevices
    (devices : List Device)
    (adapter : String) :
    (ofDevices devices).forAdapter adapter =
      adapterKeys devices adapter := by
  unfold forAdapter ofDevices
  rw [List.find?_map]
  cases hFound :
      (risingTexts (devices.filterMap Device.adapter)).find?
        ((fun entry : String × List String =>
            entry.1 == adapter) ∘
          fun adapter => (adapter, adapterKeys devices adapter))
      with
  | some found =>
      have hSame := List.find?_some hFound
      rw [← beq_iff_eq.mp hSame]
      rfl
  | none =>
      have hIdle :
          devices.filter (fun d => d.adapter == some adapter) =
            [] := by
        rw [List.filter_eq_nil_iff]
        intro device hDevice hSame
        rw [List.find?_eq_none] at hFound
        apply hFound adapter
        · rw [mem_risingTexts, List.mem_filterMap]
          exact ⟨device, hDevice, beq_iff_eq.mp hSame⟩
        · exact beq_iff_eq.mpr rfl
      unfold adapterKeys
      rw [hIdle]
      rfl

/- What is known depends on what devices there are alone. -/
theorem ofDevices_congr
    (hSame : ∀ device, device ∈ devices ↔ device ∈ others) :
    ofDevices devices = ofDevices others := by
  have hKeys (adapter : String) :
      adapterKeys devices adapter =
        adapterKeys others adapter := by
    apply risingTexts_congr
    intro key
    simp only [List.mem_map, List.mem_filter, hSame]
  unfold ofDevices
  rw [funext hKeys]
  congr 1
  · apply risingTexts_congr
    intro key
    simp only [List.mem_map, hSame]
  · rw [risingTexts_congr]
    intro adapter
    simp only [List.mem_filterMap, hSame]

/- As many keys are known as there are different ones. -/
theorem size_ofDevices (devices : List Device) :
    (ofDevices devices).size =
      Set.ncard {key | ∃ device ∈ devices, device.key = key} := by
  have hRising := rising_risingTexts (devices.map Device.key)
  have hKeys :
      {key | ∃ device ∈ devices, device.key = key} =
        ((risingTexts (devices.map Device.key)).toFinset :
          Set String) := by
    ext key
    simp [mem_risingTexts]
  rw [hKeys, Set.ncard_coe_finset,
    List.toFinset_card_of_nodup hRising.nodup]
  rfl

end DeviceKeys

------------------------------------------------------------
-- Projects
------------------------------------------------------------

namespace Project

/-
  A project has a room with a device listing in which a member
  has this name. Of those with one name the last counts.
-/
inductive Houses
    (project : Json.Value)
    (name : String)
    (member : Json.Value) : Prop where
| intro
    (rooms devices : List (String × Json.Value))
    (place : String)
    (room : Json.Value)
    (hRooms : project.member? "rooms" = some (.object rooms))
    (hRoom :
      (Json.Value.object rooms).member? place = some room)
    (hDevices : room.member? "devices" = some (.object devices))
    (hMember :
      (Json.Value.object devices).member? name = some member)

/-
  The key of a member of a device listing: the text that it
  holds as its key, or its name if it holds none.
-/
inductive HasKey
    (name : String)
    (member : Json.Value) : String → Prop where
| own
    (key : String)
    (hKey : member.member? "key" = some (.string key)) :
    HasKey name member key
| byName
    (hNone :
      ∀ key, member.member? "key" ≠ some (.string key)) :
    HasKey name member name

/- A member whose details name an adapter. -/
def IsDrivenBy
    (member : Json.Value)
    (adapter : String) : Prop :=
  ∃ details,
    member.member? "details" = some details ∧
      details.member? "adapterName" = some (.string adapter)

variable {project : Json.Value}
variable {name : String}
variable {member : Json.Value}

/- The members that count of a member that is an object. -/
theorem objectAt_eq_some_iff
    {members : List (String × Json.Value)} :
    DeviceKeys.objectAt name project = some members ↔
      ∃ written,
        project.member? name = some (.object written) ∧
          Json.lastMembers written = members := by
  unfold DeviceKeys.objectAt
  rw [Option.map_eq_some_iff]
  simp only [Option.bind_eq_some_iff]
  constructor
  · rintro ⟨written, ⟨value, hValue, hWritten⟩, hLast⟩
    cases value with
    | object members =>
        cases hWritten
        exact ⟨written, hValue, hLast⟩
    | _ => cases hWritten
  · rintro ⟨written, hValue, hLast⟩
    exact ⟨written, ⟨_, hValue, rfl⟩, hLast⟩

/- The text under a name is found there. -/
theorem textAt_eq_some_iff
    {text : String} :
    DeviceKeys.textAt name member = some text ↔
      member.member? name = some (.string text) := by
  unfold DeviceKeys.textAt
  rw [Option.bind_eq_some_iff]
  constructor
  · rintro ⟨value, hValue, hText⟩
    cases value with
    | string other =>
        cases hText
        exact hValue
    | _ => cases hText
  · intro hValue
    exact ⟨_, hValue, rfl⟩

/- The key of a device is that of its member. -/
theorem hasKey_iff
    {key : String} :
    HasKey name member key ↔
      (DeviceKeys.device (name, member)).key = key := by
  unfold DeviceKeys.device
  cases hText : DeviceKeys.textAt "key" member with
  | some text =>
      have hFound := textAt_eq_some_iff.mp hText
      constructor
      · intro hKey
        cases hKey with
        | own key hKey =>
            cases hFound.symm.trans hKey
            rfl
        | byName hNone => exact (hNone text hFound).elim
      · rintro rfl
        exact .own text hFound
  | none =>
      have hNone :
          ∀ key, member.member? "key" ≠ some (.string key) := by
        intro key hKey
        cases hText.symm.trans (textAt_eq_some_iff.mpr hKey)
      constructor
      · intro hKey
        cases hKey with
        | own key hKey => exact (hNone key hKey).elim
        | byName => rfl
      · rintro rfl
        exact .byName hNone

/- And so is the adapter that drives it. -/
theorem isDrivenBy_iff
    {adapter : String} :
    IsDrivenBy member adapter ↔
      (DeviceKeys.device (name, member)).adapter =
        some adapter := by
  unfold IsDrivenBy DeviceKeys.device
  rw [Option.bind_eq_some_iff]
  simp only [textAt_eq_some_iff]

/- The devices of a project are those that its rooms list. -/
theorem mem_devices_iff
    {rooms : List (String × Json.Value)}
    {device : Device}
    (hRooms :
      DeviceKeys.objectAt "rooms" project = some rooms) :
    device ∈ rooms.flatMap DeviceKeys.roomDevices ↔
      ∃ name member,
        Houses project name member ∧
          DeviceKeys.device (name, member) = device := by
  rcases objectAt_eq_some_iff.mp hRooms with
    ⟨written, hWritten, rfl⟩
  rw [List.mem_flatMap]
  constructor
  · rintro ⟨⟨place, room⟩, hRoom, hDevice⟩
    unfold DeviceKeys.roomDevices at hDevice
    rcases List.mem_map.mp hDevice with
      ⟨⟨name, member⟩, hMember, hDevice⟩
    cases hDevices : DeviceKeys.objectAt "devices" room with
    | none =>
        rw [hDevices] at hMember
        cases hMember
    | some devices =>
        rw [hDevices] at hMember
        rcases objectAt_eq_some_iff.mp hDevices with
          ⟨listed, hListed, rfl⟩
        exact
          ⟨name, member,
            .intro written listed place room hWritten
              (Json.mem_lastMembers_iff.mp hRoom) hListed
              (Json.mem_lastMembers_iff.mp hMember),
            hDevice⟩
  · rintro ⟨name, member, hHouses, hDevice⟩
    cases hHouses with
    | intro others listed place room hOthers hRoom hListed
        hMember =>
        cases hWritten.symm.trans hOthers
        refine
          ⟨(place, room), Json.mem_lastMembers_iff.mpr hRoom, ?_⟩
        unfold DeviceKeys.roomDevices
        rw [objectAt_eq_some_iff.mpr ⟨listed, hListed, rfl⟩]
        exact
          List.mem_map.mpr
            ⟨(name, member),
              Json.mem_lastMembers_iff.mpr hMember, hDevice⟩

------------------------------------------------------------
-- Order
------------------------------------------------------------

section Order

variable {other : Json.Value}

/- A text that is found is found after a rearrangement. -/
theorem textAt_of_rearranged
    (hOther : Json.Rearranged member other)
    (name : String) :
    DeviceKeys.textAt name other =
      DeviceKeys.textAt name member := by
  apply Option.ext
  intro text
  rw [textAt_eq_some_iff, textAt_eq_some_iff]
  constructor
  · intro hText
    rcases hOther.symm.member? hText with
      ⟨found, hFound, hSame⟩
    rw [hFound, hSame.eq_string]
  · intro hText
    rcases hOther.member? hText with ⟨found, hFound, hSame⟩
    rw [hFound, hSame.eq_string]

/- Nor does the device of a member change. -/
theorem device_of_rearranged
    (hOther : Json.Rearranged member other) :
    DeviceKeys.device (name, other) =
      DeviceKeys.device (name, member) := by
  unfold DeviceKeys.device
  rw [textAt_of_rearranged hOther]
  congr 1
  apply Option.ext
  intro adapter
  simp only [Option.bind_eq_some_iff]
  constructor
  · rintro ⟨details, hDetails, hAdapter⟩
    rcases hOther.symm.member? hDetails with
      ⟨found, hFound, hSame⟩
    refine ⟨found, hFound, ?_⟩
    rw [textAt_of_rearranged hSame, hAdapter]
  · rintro ⟨details, hDetails, hAdapter⟩
    rcases hOther.member? hDetails with
      ⟨found, hFound, hSame⟩
    refine ⟨found, hFound, ?_⟩
    rw [textAt_of_rearranged hSame, hAdapter]

/- A project that is rearranged houses the same members. -/
theorem Houses.rearranged
    (h : Houses project name member)
    (hOther : Json.Rearranged project other) :
    ∃ copy,
      Houses other name copy ∧ Json.Rearranged member copy := by
  cases h with
  | intro rooms devices place room hRooms hRoom hDevices
      hMember =>
      rcases hOther.member? hRooms with
        ⟨value, hValue, hSameRooms⟩
      rcases hSameRooms.eq_object with ⟨others, rfl⟩
      rcases hSameRooms.member? hRoom with
        ⟨place', hPlace, hSameRoom⟩
      rcases hSameRoom.member? hDevices with
        ⟨value, hListing, hSameDevices⟩
      rcases hSameDevices.eq_object with ⟨listed, rfl⟩
      rcases hSameDevices.member? hMember with
        ⟨copy, hCopy, hSame⟩
      exact
        ⟨copy,
          .intro others listed place place' hValue hPlace
            hListing hCopy,
          hSame⟩

end Order

end Project

------------------------------------------------------------
-- Device Keys
------------------------------------------------------------

open Project

/-
  Device keys tell what there is in a project: the keys of its
  devices, and for each adapter those of the devices that it
  drives, in rising order.
-/
structure DeviceKeys.Describes
    (known : DeviceKeys)
    (project : Json.Value) : Prop where
  contains :
    ∀ key,
      known.contains key = true ↔
        ∃ name member,
          Houses project name member ∧ HasKey name member key
  rising :
    ∀ adapter, (known.forAdapter adapter).Pairwise (· < ·)
  driven :
    ∀ adapter key,
      key ∈ known.forAdapter adapter ↔
        ∃ name member,
          Houses project name member ∧
            IsDrivenBy member adapter ∧ HasKey name member key
  isKnown :
    ∀ adapter,
      ∀ key ∈ known.forAdapter adapter,
        known.contains key = true
  size :
    known.size =
      Set.ncard
        {key |
          ∃ name member,
            Houses project name member ∧
              HasKey name member key}

namespace DeviceKeys

variable {body other : String}
variable {project reordered : Json.Value}
variable {keys : DeviceKeys}

/- Where the rooms of a project are found, its keys are. -/
theorem ofProject_of_rooms
    {rooms : List (String × Json.Value)}
    (hParse : Json.parse? body = some project)
    (hRooms : objectAt "rooms" project = some rooms) :
    ofProject body =
      .ok (ofDevices (rooms.flatMap roomDevices)) := by
  unfold ofProject
  rw [hParse]
  dsimp only
  rw [hRooms]

/- And nowhere else. -/
theorem exists_rooms_of_ofProject
    (hKeys : ofProject body = .ok keys) :
    ∃ project rooms,
      Json.parse? body = some project ∧
        objectAt "rooms" project = some rooms ∧
          keys = ofDevices (rooms.flatMap roomDevices) := by
  unfold ofProject at hKeys
  split at hKeys
  · cases hKeys
  · rename_i project hParse
    split at hKeys
    · cases hKeys
    · rename_i rooms hRooms
      cases hKeys
      exact ⟨project, rooms, hParse, hRooms, rfl⟩

/- The keys of the devices of a project describe it. -/
theorem describes_ofDevices
    {rooms : List (String × Json.Value)}
    (hRooms : objectAt "rooms" project = some rooms) :
    (ofDevices (rooms.flatMap roomDevices)).Describes
      project := by
  have hKey (key : String) :
      (∃ device ∈ rooms.flatMap roomDevices,
          device.key = key) ↔
        ∃ name member,
          Houses project name member ∧
            HasKey name member key := by
    simp only [mem_devices_iff hRooms, hasKey_iff]
    constructor
    · rintro ⟨_, ⟨name, member, hHouses, rfl⟩, hKey⟩
      exact ⟨name, member, hHouses, hKey⟩
    · rintro ⟨name, member, hHouses, hKey⟩
      exact ⟨_, ⟨name, member, hHouses, rfl⟩, hKey⟩
  have hDriven (adapter key : String) :
      key ∈
          (ofDevices (rooms.flatMap roomDevices)).forAdapter
            adapter ↔
        ∃ name member,
          Houses project name member ∧
            IsDrivenBy member adapter ∧
              HasKey name member key := by
    rw [forAdapter_ofDevices, mem_adapterKeys]
    simp only [mem_devices_iff hRooms, hasKey_iff]
    constructor
    · rintro ⟨_, ⟨name, member, hHouses, rfl⟩, hBoth⟩
      exact
        ⟨name, member, hHouses,
          isDrivenBy_iff.mpr hBoth.1, hBoth.2⟩
    · rintro ⟨name, member, hHouses, hAdapter, hKey⟩
      exact
        ⟨_, ⟨name, member, hHouses, rfl⟩,
          isDrivenBy_iff.mp hAdapter, hKey⟩
  refine ⟨?_, ?_, hDriven, ?_, ?_⟩
  · intro key
    rw [contains_ofDevices, hKey]
  · intro adapter
    rw [forAdapter_ofDevices]
    exact rising_risingTexts _
  · intro adapter key hMember
    rcases (hDriven adapter key).mp hMember with
      ⟨name, member, hHouses, -, hHas⟩
    rw [contains_ofDevices, hKey]
    exact ⟨name, member, hHouses, hHas⟩
  · rw [size_ofDevices]
    simp only [hKey]

/- Rooms are found after a rearrangement if they were before. -/
theorem exists_objectAt_of_rearranged
    {name : String}
    {members : List (String × Json.Value)}
    (hSame : Json.Rearranged project reordered)
    (hMembers : objectAt name project = some members) :
    ∃ others, objectAt name reordered = some others := by
  rcases objectAt_eq_some_iff.mp hMembers with
    ⟨written, hWritten, -⟩
  rcases hSame.member? hWritten with
    ⟨found, hFound, hObject⟩
  rcases hObject.eq_object with ⟨others, rfl⟩
  exact
    ⟨_, objectAt_eq_some_iff.mpr ⟨others, hFound, rfl⟩⟩

/- In what order a project is written does not matter. -/
theorem ofProject_of_rearranged
    (hParse : Json.parse? body = some project)
    (hOther : Json.parse? other = some reordered)
    (hSame : Json.Rearranged project reordered) :
    ofProject other = ofProject body := by
  cases hRooms : objectAt "rooms" project with
  | none =>
      have hNone : objectAt "rooms" reordered = none := by
        cases hOthers : objectAt "rooms" reordered with
        | none => rfl
        | some others =>
            rcases
                exists_objectAt_of_rearranged hSame.symm
                  hOthers with
              ⟨rooms, hSome⟩
            cases hRooms.symm.trans hSome
      simp only [ofProject, hParse, hOther, hRooms, hNone]
  | some rooms =>
      rcases exists_objectAt_of_rearranged hSame hRooms with
        ⟨others, hOthers⟩
      rw [ofProject_of_rooms hParse hRooms,
        ofProject_of_rooms hOther hOthers]
      congr 1
      apply ofDevices_congr
      intro device
      rw [mem_devices_iff hOthers, mem_devices_iff hRooms]
      constructor
      · rintro ⟨name, member, hHouses, rfl⟩
        rcases hHouses.rearranged hSame.symm with
          ⟨copy, hCopy, hMember⟩
        exact
          ⟨name, copy, hCopy, device_of_rearranged hMember⟩
      · rintro ⟨name, member, hHouses, rfl⟩
        rcases hHouses.rearranged hSame with
          ⟨copy, hCopy, hMember⟩
        exact
          ⟨name, copy, hCopy, device_of_rearranged hMember⟩

end DeviceKeys

/-
  The keys of a body can be told exactly if it is a JSON value
  with an object that lists its rooms. They are then what the
  listings of the rooms say, in whatever order rooms, devices
  and all other members with different names are written.
-/
theorem keys_of_project (body : String) :
    ((∃ keys, DeviceKeys.ofProject body = .ok keys) ↔
        ∃ project rooms,
          Json.parse? body = some project ∧
            project.member? "rooms" = some (.object rooms)) ∧
      (∀ keys,
          DeviceKeys.ofProject body = .ok keys →
            ∃ project,
              Json.parse? body = some project ∧
                keys.Describes project) ∧
        ∀ project other reordered,
          Json.parse? body = some project →
            Json.parse? other = some reordered →
              Json.Rearranged project reordered →
                DeviceKeys.ofProject other =
                  DeviceKeys.ofProject body := by
  refine ⟨⟨?_, ?_⟩, ?_, ?_⟩
  · rintro ⟨keys, hKeys⟩
    rcases DeviceKeys.exists_rooms_of_ofProject hKeys with
      ⟨project, rooms, hParse, hRooms, -⟩
    rcases objectAt_eq_some_iff.mp hRooms with
      ⟨written, hWritten, -⟩
    exact ⟨project, written, hParse, hWritten⟩
  · rintro ⟨project, written, hParse, hWritten⟩
    have hRooms :=
      objectAt_eq_some_iff.mpr ⟨written, hWritten, rfl⟩
    exact ⟨_, DeviceKeys.ofProject_of_rooms hParse hRooms⟩
  · intro keys hKeys
    rcases DeviceKeys.exists_rooms_of_ofProject hKeys with
      ⟨project, rooms, hParse, hRooms, rfl⟩
    exact
      ⟨project, hParse, DeviceKeys.describes_ofDevices hRooms⟩
  · intro project other reordered hParse hOther hSame
    exact
      DeviceKeys.ofProject_of_rearranged hParse hOther hSame

/- Two rooms, and the project of a house with some rooms. -/
namespace Sample

/- A television that an adapter drives. -/
def livingRoom : String × Json.Value :=
  ( "6241",
    .object
      [ ( "devices",
          .object
            [ ( "6242",
                .object
                  [ ("key", .string "tv"),
                    ( "details",
                      .object
                        [("adapterName", .string "neeo-rs")] )
                  ] ) ] ) ] )

/- A radio of which nothing is known but its name. -/
def kitchen : String × Json.Value :=
  ("7001", .object [("devices", .object [("7002", .null)])])

def house (rooms : List (String × Json.Value)) : Json.Value :=
  .object [("rooms", .object rooms)]

/- An object with one member is as legible as that. -/
theorem legible_single
    {depth : Nat}
    {value : Json.Value}
    (h : value.Legible depth)
    (name : String) :
    (Json.Value.object [(name, value)]).Legible (depth + 1) :=
  .object depth _ (List.forall_mem_singleton.mpr h)

/- Whichever of the two rooms it has, and in what order. -/
theorem parse?_house
    {rooms : List (String × Json.Value)}
    (hRooms : ∀ room ∈ rooms, room ∈ [livingRoom, kitchen]) :
    Json.parse? (house rooms).toText = some (house rooms) := by
  have hDetails :
      (Json.Value.object
          [("adapterName", .string "neeo-rs")]).Legible 122 :=
    legible_single (.string 121 "neeo-rs") "adapterName"
  have hTelevision :=
    Json.Value.Legible.object 122
      [ ("key", .string "tv"),
        ( "details",
          .object [("adapterName", .string "neeo-rs")] ) ]
      (List.forall_mem_cons.mpr
        ⟨.string 122 "tv",
          List.forall_mem_singleton.mpr hDetails⟩)
  have hLivingRoom : livingRoom.2.Legible 125 :=
    legible_single (legible_single hTelevision "6242") "devices"
  have hKitchen : kitchen.2.Legible 125 :=
    legible_single (legible_single (.null 123) "7002") "devices"
  have hHouse : (house rooms).Legible Json.deepest := by
    apply legible_single
    apply Json.Value.Legible.object 125
    intro room hRoom
    rcases List.mem_cons.mp (hRooms room hRoom) with
      rfl | hOther
    · exact hLivingRoom
    · rw [List.mem_singleton.mp hOther]
      exact hKitchen
  exact hHouse.parse?_toText

end Sample

/- A house with two rooms, whichever of them comes first. -/
theorem keys_of_house :
    ∃ keys,
      DeviceKeys.ofProject
            (Sample.house
              [Sample.livingRoom, Sample.kitchen]).toText =
          .ok keys ∧
        keys.Describes
            (Sample.house
              [Sample.livingRoom, Sample.kitchen]) ∧
          DeviceKeys.ofProject
              (Sample.house
                [Sample.kitchen, Sample.livingRoom]).toText =
            .ok keys := by
  have hParse :=
    Sample.parse?_house
      (List.Subset.refl [Sample.livingRoom, Sample.kitchen])
  have hOther :=
    Sample.parse?_house
      (List.Perm.swap Sample.livingRoom Sample.kitchen []).subset
  rcases
      keys_of_project
        (Sample.house
          [Sample.livingRoom, Sample.kitchen]).toText with
    ⟨hReads, hDescribes, hRearranged⟩
  rcases hReads.mpr ⟨_, _, hParse, rfl⟩ with ⟨keys, hKeys⟩
  rcases hDescribes keys hKeys with ⟨project, hSame, hTells⟩
  cases hParse.symm.trans hSame
  refine ⟨keys, hKeys, hTells, ?_⟩
  rw [← hKeys]
  apply hRearranged _ _ _ hParse hOther
  exact
    .member [] [] "rooms"
      (.swap [] [] Sample.livingRoom Sample.kitchen (by decide))

end BrainLink
