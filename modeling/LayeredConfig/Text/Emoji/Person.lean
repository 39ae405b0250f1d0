/-!
# People

Pictures of people and of parts of the body. Each has five more forms with a tone of the skin: the
tone stands behind the first character, in place of a selector if there is one.
-/

namespace LayeredConfig.Text.Emoji

def people : List (String × String) := [
  ("adult", "🧑"), ("baby", "👶"), ("baby_angel", "👼"), ("backhand_index_pointing_down", "👇"),
  ("backhand_index_pointing_left", "👈"), ("backhand_index_pointing_right", "👉"),
  ("backhand_index_pointing_up", "👆"), ("bearded_person", "🧔"),
  ("blond-haired_man", "👱\u200d♂\ufe0f"), ("blond-haired_person", "👱"),
  ("blond-haired_woman", "👱\u200d♀\ufe0f"), ("boy", "👦"), ("breast-feeding", "🤱"),
  ("bride_with_veil", "👰"), ("call_me_hand", "🤙"), ("child", "🧒"), ("clapping_hands", "👏"),
  ("construction_worker", "👷"), ("crossed_fingers", "🤞"), ("detective", "🕵"), ("ear", "👂"),
  ("elf", "🧝"), ("fairy", "🧚"), ("flexed_biceps", "💪"), ("folded_hands", "🙏"), ("girl", "👧"),
  ("guard", "💂"), ("hand_with_fingers_splayed", "🖐"), ("horse_racing", "🏇"),
  ("index_pointing_up", "☝"), ("left-facing_fist", "🤛"), ("love-you_gesture", "🤟"), ("mage", "🧙"),
  ("man", "👨"), ("man_artist", "👨\u200d🎨"), ("man_astronaut", "👨\u200d🚀"),
  ("man_biking", "🚴\u200d♂\ufe0f"), ("man_bouncing_ball", "⛹\ufe0f\u200d♂\ufe0f"),
  ("man_bowing", "🙇\u200d♂\ufe0f"), ("man_cartwheeling", "🤸\u200d♂\ufe0f"),
  ("man_climbing", "🧗\u200d♂\ufe0f"), ("man_construction_worker", "👷\u200d♂\ufe0f"),
  ("man_cook", "👨\u200d🍳"), ("man_dancing", "🕺"), ("man_detective", "🕵\ufe0f\u200d♂\ufe0f"),
  ("man_elf", "🧝\u200d♂\ufe0f"), ("man_facepalming", "🤦\u200d♂\ufe0f"),
  ("man_factory_worker", "👨\u200d🏭"), ("man_fairy", "🧚\u200d♂\ufe0f"), ("man_farmer", "👨\u200d🌾"),
  ("man_firefighter", "👨\u200d🚒"), ("man_frowning", "🙍\u200d♂\ufe0f"),
  ("man_gesturing_no", "🙅\u200d♂\ufe0f"), ("man_gesturing_ok", "🙆\u200d♂\ufe0f"),
  ("man_getting_haircut", "💇\u200d♂\ufe0f"), ("man_getting_massage", "💆\u200d♂\ufe0f"),
  ("man_golfing", "🏌\ufe0f\u200d♂\ufe0f"), ("man_guard", "💂\u200d♂\ufe0f"),
  ("man_health_worker", "👨\u200d⚕\ufe0f"), ("man_in_lotus_position", "🧘\u200d♂\ufe0f"),
  ("man_in_steamy_room", "🧖\u200d♂\ufe0f"), ("man_in_suit_levitating", "🕴"), ("man_in_tuxedo", "🤵"),
  ("man_judge", "👨\u200d⚖\ufe0f"), ("man_juggling", "🤹\u200d♂\ufe0f"),
  ("man_lifting_weights", "🏋\ufe0f\u200d♂\ufe0f"), ("man_mage", "🧙\u200d♂\ufe0f"),
  ("man_mechanic", "👨\u200d🔧"), ("man_mountain_biking", "🚵\u200d♂\ufe0f"),
  ("man_office_worker", "👨\u200d💼"), ("man_pilot", "👨\u200d✈\ufe0f"),
  ("man_playing_handball", "🤾\u200d♂\ufe0f"), ("man_playing_water_polo", "🤽\u200d♂\ufe0f"),
  ("man_police_officer", "👮\u200d♂\ufe0f"), ("man_pouting", "🙎\u200d♂\ufe0f"),
  ("man_raising_hand", "🙋\u200d♂\ufe0f"), ("man_rowing_boat", "🚣\u200d♂\ufe0f"),
  ("man_running", "🏃\u200d♂\ufe0f"), ("man_scientist", "👨\u200d🔬"),
  ("man_shrugging", "🤷\u200d♂\ufe0f"), ("man_singer", "👨\u200d🎤"), ("man_student", "👨\u200d🎓"),
  ("man_surfing", "🏄\u200d♂\ufe0f"), ("man_swimming", "🏊\u200d♂\ufe0f"),
  ("man_teacher", "👨\u200d🏫"), ("man_technologist", "👨\u200d💻"),
  ("man_tipping_hand", "💁\u200d♂\ufe0f"), ("man_vampire", "🧛\u200d♂\ufe0f"),
  ("man_walking", "🚶\u200d♂\ufe0f"), ("man_wearing_turban", "👳\u200d♂\ufe0f"),
  ("man_with_chinese_cap", "👲"), ("mermaid", "🧜\u200d♀\ufe0f"), ("merman", "🧜\u200d♂\ufe0f"),
  ("merperson", "🧜"), ("middle_finger", "🖕"), ("mrs._claus", "🤶"), ("nail_polish", "💅"),
  ("nose", "👃"), ("ok_hand", "👌"), ("old_man", "👴"), ("old_woman", "👵"), ("older_adult", "🧓"),
  ("oncoming_fist", "👊"), ("open_hands", "👐"), ("palms_up_together", "🤲"), ("person_biking", "🚴"),
  ("person_bouncing_ball", "⛹"), ("person_bowing", "🙇"), ("person_cartwheeling", "🤸"),
  ("person_climbing", "🧗"), ("person_facepalming", "🤦"), ("person_frowning", "🙍"),
  ("person_gesturing_no", "🙅"), ("person_gesturing_ok", "🙆"), ("person_getting_haircut", "💇"),
  ("person_getting_massage", "💆"), ("person_golfing", "🏌"), ("person_in_bed", "🛌"),
  ("person_in_lotus_position", "🧘"), ("person_in_steamy_room", "🧖"), ("person_juggling", "🤹"),
  ("person_lifting_weights", "🏋"), ("person_mountain_biking", "🚵"),
  ("person_playing_handball", "🤾"), ("person_playing_water_polo", "🤽"), ("person_pouting", "🙎"),
  ("person_raising_hand", "🙋"), ("person_rowing_boat", "🚣"), ("person_running", "🏃"),
  ("person_shrugging", "🤷"), ("person_surfing", "🏄"), ("person_swimming", "🏊"),
  ("person_taking_bath", "🛀"), ("person_tipping_hand", "💁"), ("person_walking", "🚶"),
  ("person_wearing_turban", "👳"), ("police_officer", "👮"), ("pregnant_woman", "🤰"), ("prince", "🤴"),
  ("princess", "👸"), ("raised_back_of_hand", "🤚"), ("raised_fist", "✊"), ("raised_hand", "✋"),
  ("raising_hands", "🙌"), ("right-facing_fist", "🤜"), ("santa_claus", "🎅"), ("selfie", "🤳"),
  ("sign_of_the_horns", "🤘"), ("snowboarder", "🏂"), ("thumbs_down", "👎"), ("thumbs_up", "👍"),
  ("vampire", "🧛"), ("victory_hand", "✌"), ("vulcan_salute", "🖖"), ("waving_hand", "👋"),
  ("woman", "👩"), ("woman_artist", "👩\u200d🎨"), ("woman_astronaut", "👩\u200d🚀"),
  ("woman_biking", "🚴\u200d♀\ufe0f"), ("woman_bouncing_ball", "⛹\ufe0f\u200d♀\ufe0f"),
  ("woman_bowing", "🙇\u200d♀\ufe0f"), ("woman_cartwheeling", "🤸\u200d♀\ufe0f"),
  ("woman_climbing", "🧗\u200d♀\ufe0f"), ("woman_construction_worker", "👷\u200d♀\ufe0f"),
  ("woman_cook", "👩\u200d🍳"), ("woman_dancing", "💃"), ("woman_detective", "🕵\ufe0f\u200d♀\ufe0f"),
  ("woman_elf", "🧝\u200d♀\ufe0f"), ("woman_facepalming", "🤦\u200d♀\ufe0f"),
  ("woman_factory_worker", "👩\u200d🏭"), ("woman_fairy", "🧚\u200d♀\ufe0f"),
  ("woman_farmer", "👩\u200d🌾"), ("woman_firefighter", "👩\u200d🚒"),
  ("woman_frowning", "🙍\u200d♀\ufe0f"), ("woman_gesturing_no", "🙅\u200d♀\ufe0f"),
  ("woman_gesturing_ok", "🙆\u200d♀\ufe0f"), ("woman_getting_haircut", "💇\u200d♀\ufe0f"),
  ("woman_getting_massage", "💆\u200d♀\ufe0f"), ("woman_golfing", "🏌\ufe0f\u200d♀\ufe0f"),
  ("woman_guard", "💂\u200d♀\ufe0f"), ("woman_health_worker", "👩\u200d⚕\ufe0f"),
  ("woman_in_lotus_position", "🧘\u200d♀\ufe0f"), ("woman_in_steamy_room", "🧖\u200d♀\ufe0f"),
  ("woman_judge", "👩\u200d⚖\ufe0f"), ("woman_juggling", "🤹\u200d♀\ufe0f"),
  ("woman_lifting_weights", "🏋\ufe0f\u200d♀\ufe0f"), ("woman_mage", "🧙\u200d♀\ufe0f"),
  ("woman_mechanic", "👩\u200d🔧"), ("woman_mountain_biking", "🚵\u200d♀\ufe0f"),
  ("woman_office_worker", "👩\u200d💼"), ("woman_pilot", "👩\u200d✈\ufe0f"),
  ("woman_playing_handball", "🤾\u200d♀\ufe0f"), ("woman_playing_water_polo", "🤽\u200d♀\ufe0f"),
  ("woman_police_officer", "👮\u200d♀\ufe0f"), ("woman_pouting", "🙎\u200d♀\ufe0f"),
  ("woman_raising_hand", "🙋\u200d♀\ufe0f"), ("woman_rowing_boat", "🚣\u200d♀\ufe0f"),
  ("woman_running", "🏃\u200d♀\ufe0f"), ("woman_scientist", "👩\u200d🔬"),
  ("woman_shrugging", "🤷\u200d♀\ufe0f"), ("woman_singer", "👩\u200d🎤"),
  ("woman_student", "👩\u200d🎓"), ("woman_surfing", "🏄\u200d♀\ufe0f"),
  ("woman_swimming", "🏊\u200d♀\ufe0f"), ("woman_teacher", "👩\u200d🏫"),
  ("woman_technologist", "👩\u200d💻"), ("woman_tipping_hand", "💁\u200d♀\ufe0f"),
  ("woman_vampire", "🧛\u200d♀\ufe0f"), ("woman_walking", "🚶\u200d♀\ufe0f"),
  ("woman_wearing_turban", "👳\u200d♀\ufe0f"), ("woman_with_headscarf", "🧕"), ("writing_hand", "✍")]

def tones : List (String × Char) := [
  ("light", Char.ofNat 0x1f3fb), ("medium-light", Char.ofNat 0x1f3fc),
  ("medium", Char.ofNat 0x1f3fd), ("medium-dark", Char.ofNat 0x1f3fe),
  ("dark", Char.ofNat 0x1f3ff)]

/-- The selector behind a character that asks for its picture. -/
def pictureSelector : Char := '\ufe0f'

def withTone (tone : Char) : List Char → List Char
  | [] => []
  | c :: cs => c :: tone :: (if cs.head? == some pictureSelector then cs.tail else cs)

def dropEnding? (ending name : List Char) : Option (List Char) :=
  if ending.isSuffixOf name then some (name.take (name.length - ending.length)) else none

/-- The picture of a person with a name, with the tone that the name ends in. -/
def person? (name : String) : Option (List Char) :=
  match people.lookup name with
  | some p => some p.toList
  | none => tones.findSome? (fun tone => do
      let stem ← dropEnding? ("_" ++ tone.1 ++ "_skin_tone").toList name.toList
      let p ← people.lookup (String.ofList stem)
      return withTone tone.2 p.toList)

end LayeredConfig.Text.Emoji
