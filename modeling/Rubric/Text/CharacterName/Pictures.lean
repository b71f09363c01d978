/-!
# Character names: pictures

The names of the pictures, symbols and marks from U+1F000 on, in the notation of the table of
character names.
-/

namespace Rubric.Text.CharacterName

/-- The names of the pictures, symbols and marks from U+1F000 on. -/
def pictures : String := "
@1F000 0MAHJONG_TILE_EAST_WIND 2SOUTH_WIND 2WEST_WIND 2NORTH_WIND 2RED_DRAGON 2GREEN_DRAGON
2WHITE_DRAGON 2ONE_OF_CHARACTERS 2TWO_OF_CHARACTERS 2THREE_OF_CHARACTERS 2FOUR_OF_CHARACTERS
2FIVE_OF_CHARACTERS 2SIX_OF_CHARACTERS 2SEVEN_OF_CHARACTERS 2EIGHT_OF_CHARACTERS
2NINE_OF_CHARACTERS 2ONE_OF_BAMBOOS 2TWO_OF_BAMBOOS 2THREE_OF_BAMBOOS 2FOUR_OF_BAMBOOS
2FIVE_OF_BAMBOOS 2SIX_OF_BAMBOOS 2SEVEN_OF_BAMBOOS 2EIGHT_OF_BAMBOOS 2NINE_OF_BAMBOOS
2ONE_OF_CIRCLES 2TWO_OF_CIRCLES 2THREE_OF_CIRCLES 2FOUR_OF_CIRCLES 2FIVE_OF_CIRCLES
2SIX_OF_CIRCLES 2SEVEN_OF_CIRCLES 2EIGHT_OF_CIRCLES 2NINE_OF_CIRCLES 2PLUM 2ORCHID 2BAMBOO
2CHRYSANTHEMUM 2SPRING 2SUMMER 2AUTUMN 2WINTER 2JOKER 2BACK @1F030 0DOMINO_TILE_HORIZONTAL_BACK
2HORIZONTAL-00-00 + + + + + + 2HORIZONTAL-01-00 + + + + + + 2HORIZONTAL-02-00 + + + + + +
2HORIZONTAL-03-00 + + + + + + 2HORIZONTAL-04-00 + + + + + + 2HORIZONTAL-05-00 + + + + + +
2HORIZONTAL-06-00 + + + + + + 2VERTICAL_BACK 2VERTICAL-00-00 + + + + + + 2VERTICAL-01-00 + + + + +
+ 2VERTICAL-02-00 + + + + + + 2VERTICAL-03-00 + + + + + + 2VERTICAL-04-00 + + + + + +
2VERTICAL-05-00 + + + + + + 2VERTICAL-06-00 + + + + + + @1F0A0 0PLAYING_CARD_BACK 2ACE_OF_SPADES
2TWO_OF_SPADES 2THREE_OF_SPADES 2FOUR_OF_SPADES 2FIVE_OF_SPADES 2SIX_OF_SPADES 2SEVEN_OF_SPADES
2EIGHT_OF_SPADES 2NINE_OF_SPADES 2TEN_OF_SPADES 2JACK_OF_SPADES 2KNIGHT_OF_SPADES 2QUEEN_OF_SPADES
2KING_OF_SPADES @1F0B1 2ACE_OF_HEARTS 2TWO_OF_HEARTS 2THREE_OF_HEARTS 2FOUR_OF_HEARTS
2FIVE_OF_HEARTS 2SIX_OF_HEARTS 2SEVEN_OF_HEARTS 2EIGHT_OF_HEARTS 2NINE_OF_HEARTS 2TEN_OF_HEARTS
2JACK_OF_HEARTS 2KNIGHT_OF_HEARTS 2QUEEN_OF_HEARTS 2KING_OF_HEARTS 2RED_JOKER @1F0C1
2ACE_OF_DIAMONDS 2TWO_OF_DIAMONDS 2THREE_OF_DIAMONDS 2FOUR_OF_DIAMONDS 2FIVE_OF_DIAMONDS
2SIX_OF_DIAMONDS 2SEVEN_OF_DIAMONDS 2EIGHT_OF_DIAMONDS 2NINE_OF_DIAMONDS 2TEN_OF_DIAMONDS
2JACK_OF_DIAMONDS 2KNIGHT_OF_DIAMONDS 2QUEEN_OF_DIAMONDS 2KING_OF_DIAMONDS 2BLACK_JOKER @1F0D1
2ACE_OF_CLUBS 2TWO_OF_CLUBS 2THREE_OF_CLUBS 2FOUR_OF_CLUBS 2FIVE_OF_CLUBS 2SIX_OF_CLUBS
2SEVEN_OF_CLUBS 2EIGHT_OF_CLUBS 2NINE_OF_CLUBS 2TEN_OF_CLUBS 2JACK_OF_CLUBS 2KNIGHT_OF_CLUBS
2QUEEN_OF_CLUBS 2KING_OF_CLUBS 2WHITE_JOKER 2FOOL 2TRUMP-1 + + + + + + + + 2TRUMP-10 + + + + + + +
+ + + + @1F100 0DIGIT_ZERO_FULL_STOP 2COMMA 1ONE_COMMA 1TWO_COMMA 1THREE_COMMA 1FOUR_COMMA
1FIVE_COMMA 1SIX_COMMA 1SEVEN_COMMA 1EIGHT_COMMA 1NINE_COMMA
0DINGBAT_CIRCLED_SANS-SERIF_DIGIT_ZERO 1NEGATIVE_CIRCLED_SANS-SERIF_DIGIT_ZERO
0CIRCLED_ZERO_WITH_SLASH 1ANTICLOCKWISE_ARROW 1DOLLAR_SIGN_WITH_OVERLAID_BACKSLASH
0PARENTHESIZED_LATIN_CAPITAL_LETTER_A 4B 4C 4D 4E 4F 4G 4H 4I 4J 4K 4L 4M 4N 4O 4P 4Q 4R 4S 4T 4U
4V 4W 4X 4Y 4Z 0TORTOISE_SHELL_BRACKETED_LATIN_CAPITAL_LETTER_S
0CIRCLED_ITALIC_LATIN_CAPITAL_LETTER_C 5R 1CD 1WZ 0COPYLEFT_SYMBOL 0SQUARED_LATIN_CAPITAL_LETTER_A
4B 4C 4D 4E 4F 4G 4H 4I 4J 4K 4L 4M 4N 4O 4P 4Q 4R 4S 4T 4U 4V 4W 4X 4Y 4Z 1HV 1MV 1SD 1SS 1PPV
1WC 0NEGATIVE_CIRCLED_LATIN_CAPITAL_LETTER_A 5B 5C 5D 5E 5F 5G 5H 5I 5J 5K 5L 5M 5N 5O 5P 5Q 5R 5S
5T 5U 5V 5W 5X 5Y 5Z 0RAISED_MC_SIGN 1MD_SIGN 1MR_SIGN 0CIRCLED_CC 1C_WITH_OVERLAID_BACKSLASH
1HUMAN_FIGURE 0NEGATIVE_SQUARED_LATIN_CAPITAL_LETTER_A 5B 5C 5D 5E 5F 5G 5H 5I 5J 5K 5L 5M 5N 5O
5P 5Q 5R 5S 5T 5U 5V 5W 5X 5Y 5Z 0CROSSED_NEGATIVE_SQUARED_LATIN_CAPITAL_LETTER_P
0NEGATIVE_SQUARED_IC 2PA 2SA 2AB 2WC 0SQUARE_DJ 0SQUARED_CL 1COOL 1FREE 1ID 1NEW 1NG 1OK 1SOS
1UP_WITH_EXCLAMATION_MARK 1VS 1THREE_D 1SECOND_SCREEN 1TWO_K 1FOUR_K 1EIGHT_K 1FIVE_POINT_ONE
1SEVEN_POINT_ONE 1TWENTY-TWO_POINT_TWO 1SIXTY_P 1ONE_HUNDRED_TWENTY_P 1LATIN_SMALL_LETTER_D 1HC
1HDR 1HI-RES 1LOSSLESS 1SHV 1UHD 1VOD 0MASK_WORK_SYMBOL @1F1E6 0REGIONAL_INDICATOR_SYMBOL_LETTER_A
4B 4C 4D 4E 4F 4G 4H 4I 4J 4K 4L 4M 4N 4O 4P 4Q 4R 4S 4T 4U 4V 4W 4X 4Y 4Z 0SQUARE_HIRAGANA_HOKA
0SQUARED_KATAKANA_KOKO 2SA @1F210 1CJK_UNIFIED_IDEOGRAPH-624B 3IDEOGRAPH-5B57 3IDEOGRAPH-53CC
1KATAKANA_DE 1CJK_UNIFIED_IDEOGRAPH-4E8C 3IDEOGRAPH-591A 3IDEOGRAPH-89E3 3IDEOGRAPH-5929
3IDEOGRAPH-4EA4 3IDEOGRAPH-6620 3IDEOGRAPH-7121 3IDEOGRAPH-6599 3IDEOGRAPH-524D 3IDEOGRAPH-5F8C
3IDEOGRAPH-518D 3IDEOGRAPH-65B0 3IDEOGRAPH-521D 3IDEOGRAPH-7D42 3IDEOGRAPH-751F 3IDEOGRAPH-8CA9
3IDEOGRAPH-58F0 3IDEOGRAPH-5439 3IDEOGRAPH-6F14 3IDEOGRAPH-6295 3IDEOGRAPH-6355 3IDEOGRAPH-4E00
3IDEOGRAPH-4E09 3IDEOGRAPH-904A 3IDEOGRAPH-5DE6 3IDEOGRAPH-4E2D 3IDEOGRAPH-53F3 3IDEOGRAPH-6307
3IDEOGRAPH-8D70 3IDEOGRAPH-6253 3IDEOGRAPH-7981 3IDEOGRAPH-7A7A 3IDEOGRAPH-5408 3IDEOGRAPH-6E80
3IDEOGRAPH-6709 3IDEOGRAPH-6708 3IDEOGRAPH-7533 3IDEOGRAPH-5272 3IDEOGRAPH-55B6 3IDEOGRAPH-914D
@1F240 0TORTOISE_SHELL_BRACKETED_CJK_UNIFIED_IDEOGRAPH-672C 5IDEOGRAPH-4E09 5IDEOGRAPH-4E8C
5IDEOGRAPH-5B89 5IDEOGRAPH-70B9 5IDEOGRAPH-6253 5IDEOGRAPH-76D7 5IDEOGRAPH-52DD 5IDEOGRAPH-6557
@1F250 0CIRCLED_IDEOGRAPH_ADVANTAGE 2ACCEPT @1F260 0ROUNDED_SYMBOL_FOR_FU 3LU 3SHOU 3XI 3SHUANGXI
3CAI @1F300 0CYCLONE 0FOGGY 0CLOSED_UMBRELLA 0NIGHT_WITH_STARS 0SUNRISE_OVER_MOUNTAINS 0SUNRISE
0CITYSCAPE_AT_DUSK 0SUNSET_OVER_BUILDINGS 0RAINBOW 0BRIDGE_AT_NIGHT 0WATER_WAVE 0VOLCANO
0MILKY_WAY 0EARTH_GLOBE_EUROPE-AFRICA 2AMERICAS 2ASIA-AUSTRALIA 0GLOBE_WITH_MERIDIANS
0NEW_MOON_SYMBOL 0WAXING_CRESCENT_MOON_SYMBOL 0FIRST_QUARTER_MOON_SYMBOL
0WAXING_GIBBOUS_MOON_SYMBOL 0FULL_MOON_SYMBOL 0WANING_GIBBOUS_MOON_SYMBOL
0LAST_QUARTER_MOON_SYMBOL 0WANING_CRESCENT_MOON_SYMBOL 0CRESCENT_MOON 0NEW_MOON_WITH_FACE
0FIRST_QUARTER_MOON_WITH_FACE 0LAST_QUARTER_MOON_WITH_FACE 0FULL_MOON_WITH_FACE 0SUN_WITH_FACE
0GLOWING_STAR 0SHOOTING_STAR 0THERMOMETER 0BLACK_DROPLET 0WHITE_SUN 2WITH_SMALL_CLOUD
2BEHIND_CLOUD 4WITH_RAIN 0CLOUD_WITH_RAIN 2SNOW 2LIGHTNING 2TORNADO 0FOG 0WIND_BLOWING_FACE
0HOT_DOG 0TACO 0BURRITO 0CHESTNUT 0SEEDLING 0EVERGREEN_TREE 0DECIDUOUS_TREE 0PALM_TREE 0CACTUS
0HOT_PEPPER 0TULIP 0CHERRY_BLOSSOM 0ROSE 0HIBISCUS 0SUNFLOWER 0BLOSSOM 0EAR_OF_MAIZE 2RICE 0HERB
0FOUR_LEAF_CLOVER 0MAPLE_LEAF 0FALLEN_LEAF 0LEAF_FLUTTERING_IN_WIND 0MUSHROOM 0TOMATO 0AUBERGINE
0GRAPES 0MELON 0WATERMELON 0TANGERINE 0LEMON 0BANANA 0PINEAPPLE 0RED_APPLE 0GREEN_APPLE 0PEAR
0PEACH 0CHERRIES 0STRAWBERRY 0HAMBURGER 0SLICE_OF_PIZZA 0MEAT_ON_BONE 0POULTRY_LEG 0RICE_CRACKER
1BALL 0COOKED_RICE 0CURRY_AND_RICE 0STEAMING_BOWL 0SPAGHETTI 0BREAD 0FRENCH_FRIES
0ROASTED_SWEET_POTATO 0DANGO 0ODEN 0SUSHI 0FRIED_SHRIMP 0FISH_CAKE_WITH_SWIRL_DESIGN
0SOFT_ICE_CREAM 0SHAVED_ICE 0ICE_CREAM 0DOUGHNUT 0COOKIE 0CHOCOLATE_BAR 0CANDY 0LOLLIPOP 0CUSTARD
0HONEY_POT 0SHORTCAKE 0BENTO_BOX 0POT_OF_FOOD 0COOKING 0FORK_AND_KNIFE 0TEACUP_WITHOUT_HANDLE
0SAKE_BOTTLE_AND_CUP 0WINE_GLASS 0COCKTAIL_GLASS 0TROPICAL_DRINK 0BEER_MUG 0CLINKING_BEER_MUGS
0BABY_BOTTLE 0FORK_AND_KNIFE_WITH_PLATE 0BOTTLE_WITH_POPPING_CORK 0POPCORN 0RIBBON
0WRAPPED_PRESENT 0BIRTHDAY_CAKE 0JACK-O-LANTERN 0CHRISTMAS_TREE 0FATHER_CHRISTMAS 0FIREWORKS
0FIREWORK_SPARKLER 0BALLOON 0PARTY_POPPER 0CONFETTI_BALL 0TANABATA_TREE 0CROSSED_FLAGS
0PINE_DECORATION 0JAPANESE_DOLLS 0CARP_STREAMER 0WIND_CHIME 0MOON_VIEWING_CEREMONY 0SCHOOL_SATCHEL
0GRADUATION_CAP 0HEART_WITH_TIP_ON_THE_LEFT 0BOUQUET_OF_FLOWERS 0MILITARY_MEDAL 0REMINDER_RIBBON
0MUSICAL_KEYBOARD_WITH_JACKS 0STUDIO_MICROPHONE 0LEVEL_SLIDER 0CONTROL_KNOBS
0BEAMED_ASCENDING_MUSICAL_NOTES 1DESCENDING_MUSICAL_NOTES 0FILM_FRAMES 0ADMISSION_TICKETS
0CAROUSEL_HORSE 0FERRIS_WHEEL 0ROLLER_COASTER 0FISHING_POLE_AND_FISH 0MICROPHONE 0MOVIE_CAMERA
0CINEMA 0HEADPHONE 0ARTIST_PALETTE 0TOP_HAT 0CIRCUS_TENT 0TICKET 0CLAPPER_BOARD 0PERFORMING_ARTS
0VIDEO_GAME 0DIRECT_HIT 0SLOT_MACHINE 0BILLIARDS 0GAME_DIE 0BOWLING 0FLOWER_PLAYING_CARDS
0MUSICAL_NOTE 0MULTIPLE_MUSICAL_NOTES 0SAXOPHONE 0GUITAR 0MUSICAL_KEYBOARD 0TRUMPET 0VIOLIN
0MUSICAL_SCORE 0RUNNING_SHIRT_WITH_SASH 0TENNIS_RACQUET_AND_BALL 0SKI_AND_SKI_BOOT
0BASKETBALL_AND_HOOP 0CHEQUERED_FLAG 0SNOWBOARDER 0RUNNER 0SURFER 0SPORTS_MEDAL 0TROPHY
0HORSE_RACING 0AMERICAN_FOOTBALL 0RUGBY_FOOTBALL 0SWIMMER 0WEIGHT_LIFTER 0GOLFER
0RACING_MOTORCYCLE 1CAR 0CRICKET_BAT_AND_BALL 0VOLLEYBALL 0FIELD_HOCKEY_STICK_AND_BALL
0ICE_HOCKEY_STICK_AND_PUCK 0TABLE_TENNIS_PADDLE_AND_BALL 0SNOW_CAPPED_MOUNTAIN 0CAMPING
0BEACH_WITH_UMBRELLA 0BUILDING_CONSTRUCTION 0HOUSE_BUILDINGS 0CITYSCAPE 0DERELICT_HOUSE_BUILDING
0CLASSICAL_BUILDING 0DESERT 1ISLAND 0NATIONAL_PARK 0STADIUM 0HOUSE_BUILDING 1WITH_GARDEN
0OFFICE_BUILDING 0JAPANESE_POST_OFFICE 0EUROPEAN_POST_OFFICE 0HOSPITAL 0BANK
0AUTOMATED_TELLER_MACHINE 0HOTEL 0LOVE_HOTEL 0CONVENIENCE_STORE 0SCHOOL 0DEPARTMENT_STORE 0FACTORY
0IZAKAYA_LANTERN 0JAPANESE_CASTLE 0EUROPEAN_CASTLE 0WHITE_PENNANT 0BLACK_PENNANT
0WAVING_WHITE_FLAG 1BLACK_FLAG 0ROSETTE 0BLACK_ROSETTE 0LABEL 0BADMINTON_RACQUET_AND_SHUTTLECOCK
0BOW_AND_ARROW 0AMPHORA 0EMOJI_MODIFIER_FITZPATRICK_TYPE-1-2 3TYPE-3 + + + 0RAT 0MOUSE 0OX
0WATER_BUFFALO 0COW 0TIGER 0LEOPARD 0RABBIT 0CAT 0DRAGON 0CROCODILE 0WHALE 0SNAIL 0SNAKE 0HORSE
0RAM 0GOAT 0SHEEP 0MONKEY 0ROOSTER 0CHICKEN 0DOG 0PIG 0BOAR 0ELEPHANT 0OCTOPUS 0SPIRAL_SHELL 0BUG
0ANT 0HONEYBEE 0LADY_BEETLE 0FISH 0TROPICAL_FISH 0BLOWFISH 0TURTLE 0HATCHING_CHICK 0BABY_CHICK
0FRONT-FACING_BABY_CHICK 0BIRD 0PENGUIN 0KOALA 0POODLE 0DROMEDARY_CAMEL 0BACTRIAN_CAMEL 0DOLPHIN
0MOUSE_FACE 0COW_FACE 0TIGER_FACE 0RABBIT_FACE 0CAT_FACE 0DRAGON_FACE 0SPOUTING_WHALE 0HORSE_FACE
0MONKEY_FACE 0DOG_FACE 0PIG_FACE 0FROG_FACE 0HAMSTER_FACE 0WOLF_FACE 0BEAR_FACE 0PANDA_FACE
0PIG_NOSE 0PAW_PRINTS 0CHIPMUNK 0EYES 0EYE 0EAR 0NOSE 0MOUTH 0TONGUE
0WHITE_UP_POINTING_BACKHAND_INDEX 1DOWN_POINTING_BACKHAND_INDEX 1LEFT_POINTING_BACKHAND_INDEX
1RIGHT_POINTING_BACKHAND_INDEX 0FISTED_HAND_SIGN 0WAVING_HAND_SIGN 0OK_HAND_SIGN 0THUMBS_UP_SIGN
1DOWN_SIGN 0CLAPPING_HANDS_SIGN 0OPEN_HANDS_SIGN 0CROWN 0WOMANS_HAT 0EYEGLASSES 0NECKTIE 0T-SHIRT
0JEANS 0DRESS 0KIMONO 0BIKINI 0WOMANS_CLOTHES 0PURSE 0HANDBAG 0POUCH 0MANS_SHOE 0ATHLETIC_SHOE
0HIGH-HEELED_SHOE 0WOMANS_SANDAL 1BOOTS 0FOOTPRINTS 0BUST_IN_SILHOUETTE 0BUSTS_IN_SILHOUETTE 0BOY
0GIRL 0MAN 0WOMAN 0FAMILY 0MAN_AND_WOMAN_HOLDING_HANDS 0TWO_MEN_HOLDING_HANDS 1WOMEN_HOLDING_HANDS
0POLICE_OFFICER 0WOMAN_WITH_BUNNY_EARS 0BRIDE_WITH_VEIL 0PERSON_WITH_BLOND_HAIR
0MAN_WITH_GUA_PI_MAO 2TURBAN 0OLDER_MAN 1WOMAN 0BABY 0CONSTRUCTION_WORKER 0PRINCESS 0JAPANESE_OGRE
1GOBLIN 0GHOST 0BABY_ANGEL 0EXTRATERRESTRIAL_ALIEN 0ALIEN_MONSTER 0IMP 0SKULL
0INFORMATION_DESK_PERSON 0GUARDSMAN 0DANCER 0LIPSTICK 0NAIL_POLISH 0FACE_MASSAGE 0HAIRCUT
0BARBER_POLE 0SYRINGE 0PILL 0KISS_MARK 0LOVE_LETTER 0RING 0GEM_STONE 0KISS 0BOUQUET
0COUPLE_WITH_HEART 0WEDDING 0BEATING_HEART 0BROKEN_HEART 0TWO_HEARTS 0SPARKLING_HEART
0GROWING_HEART 0HEART_WITH_ARROW 0BLUE_HEART 0GREEN_HEART 0YELLOW_HEART 0PURPLE_HEART
0HEART_WITH_RIBBON 0REVOLVING_HEARTS 0HEART_DECORATION 0DIAMOND_SHAPE_WITH_A_DOT_INSIDE
0ELECTRIC_LIGHT_BULB 0ANGER_SYMBOL 0BOMB 0SLEEPING_SYMBOL 0COLLISION_SYMBOL
0SPLASHING_SWEAT_SYMBOL 0DROPLET 0DASH_SYMBOL 0PILE_OF_POO 0FLEXED_BICEPS 0DIZZY_SYMBOL
0SPEECH_BALLOON 0THOUGHT_BALLOON 0WHITE_FLOWER 0HUNDRED_POINTS_SYMBOL 0MONEY_BAG
0CURRENCY_EXCHANGE 0HEAVY_DOLLAR_SIGN 0CREDIT_CARD 0BANKNOTE_WITH_YEN_SIGN 2DOLLAR_SIGN 2EURO_SIGN
2POUND_SIGN 0MONEY_WITH_WINGS 0CHART_WITH_UPWARDS_TREND_AND_YEN_SIGN 0SEAT 0PERSONAL_COMPUTER
0BRIEFCASE 0MINIDISC 0FLOPPY_DISK 0OPTICAL_DISC 0DVD 0FILE_FOLDER 0OPEN_FILE_FOLDER
0PAGE_WITH_CURL 1FACING_UP 0CALENDAR 0TEAR-OFF_CALENDAR 0CARD_INDEX 0CHART_WITH_UPWARDS_TREND
2DOWNWARDS_TREND 0BAR_CHART 0CLIPBOARD 0PUSHPIN 0ROUND_PUSHPIN 0PAPERCLIP 0STRAIGHT_RULER
0TRIANGULAR_RULER 0BOOKMARK_TABS 0LEDGER 0NOTEBOOK 1WITH_DECORATIVE_COVER 0CLOSED_BOOK 0OPEN_BOOK
0GREEN_BOOK 0BLUE_BOOK 0ORANGE_BOOK 0BOOKS 0NAME_BADGE 0SCROLL 0MEMO 0TELEPHONE_RECEIVER 0PAGER
0FAX_MACHINE 0SATELLITE_ANTENNA 0PUBLIC_ADDRESS_LOUDSPEAKER 0CHEERING_MEGAPHONE 0OUTBOX_TRAY
0INBOX_TRAY 0PACKAGE 0E-MAIL_SYMBOL 0INCOMING_ENVELOPE 0ENVELOPE_WITH_DOWNWARDS_ARROW_ABOVE
0CLOSED_MAILBOX_WITH_LOWERED_FLAG 3RAISED_FLAG 0OPEN_MAILBOX_WITH_RAISED_FLAG 3LOWERED_FLAG
0POSTBOX 0POSTAL_HORN 0NEWSPAPER 0MOBILE_PHONE 2WITH_RIGHTWARDS_ARROW_AT_LEFT 0VIBRATION_MODE
0MOBILE_PHONE_OFF 0NO_MOBILE_PHONES 0ANTENNA_WITH_BARS 0CAMERA 1WITH_FLASH 0VIDEO_CAMERA
0TELEVISION 0RADIO 0VIDEOCASSETTE 0FILM_PROJECTOR 0PORTABLE_STEREO 0PRAYER_BEADS
0TWISTED_RIGHTWARDS_ARROWS 0CLOCKWISE_RIGHTWARDS_AND_LEFTWARDS_OPEN_CIRCLE_ARROWS
7WITH_CIRCLED_ONE_OVERLAY 1DOWNWARDS_AND_UPWARDS_OPEN_CIRCLE_ARROWS
0ANTICLOCKWISE_DOWNWARDS_AND_UPWARDS_OPEN_CIRCLE_ARROWS 0LOW_BRIGHTNESS_SYMBOL
0HIGH_BRIGHTNESS_SYMBOL 0SPEAKER_WITH_CANCELLATION_STROKE 0SPEAKER 1WITH_ONE_SOUND_WAVE
2THREE_SOUND_WAVES 0BATTERY 0ELECTRIC_PLUG 0LEFT-POINTING_MAGNIFYING_GLASS
0RIGHT-POINTING_MAGNIFYING_GLASS 0LOCK_WITH_INK_PEN 0CLOSED_LOCK_WITH_KEY 0KEY 0LOCK 0OPEN_LOCK
0BELL 1WITH_CANCELLATION_STROKE 0BOOKMARK 0LINK_SYMBOL 0RADIO_BUTTON
0BACK_WITH_LEFTWARDS_ARROW_ABOVE 0END_WITH_LEFTWARDS_ARROW_ABOVE
0ON_WITH_EXCLAMATION_MARK_WITH_LEFT_RIGHT_ARROW_ABOVE 0SOON_WITH_RIGHTWARDS_ARROW_ABOVE
0TOP_WITH_UPWARDS_ARROW_ABOVE 0NO_ONE_UNDER_EIGHTEEN_SYMBOL 0KEYCAP_TEN
0INPUT_SYMBOL_FOR_LATIN_CAPITAL_LETTERS ~ 3NUMBERS 3SYMBOLS 3LATIN_LETTERS 0FIRE 0ELECTRIC_TORCH
0WRENCH 0HAMMER 0NUT_AND_BOLT 0HOCHO 0PISTOL 0MICROSCOPE 0TELESCOPE 0CRYSTAL_BALL
0SIX_POINTED_STAR_WITH_MIDDLE_DOT 0JAPANESE_SYMBOL_FOR_BEGINNER 0TRIDENT_EMBLEM
0BLACK_SQUARE_BUTTON 0WHITE_SQUARE_BUTTON 0LARGE_RED_CIRCLE 1BLUE_CIRCLE 1ORANGE_DIAMOND
1BLUE_DIAMOND 0SMALL_ORANGE_DIAMOND 1BLUE_DIAMOND 0UP-POINTING_RED_TRIANGLE
0DOWN-POINTING_RED_TRIANGLE 0UP-POINTING_SMALL_RED_TRIANGLE 0DOWN-POINTING_SMALL_RED_TRIANGLE
0LOWER_RIGHT_SHADOWED_WHITE_CIRCLE 0UPPER_RIGHT_SHADOWED_WHITE_CIRCLE 0CIRCLED_CROSS_POMMEE
0CROSS_POMMEE_WITH_HALF-CIRCLE_BELOW 1POMMEE 0NOTCHED_LEFT_SEMICIRCLE_WITH_THREE_DOTS
1RIGHT_SEMICIRCLE_WITH_THREE_DOTS 0SYMBOL_FOR_MARKS_CHAPTER 0WHITE_LATIN_CROSS 0HEAVY_LATIN_CROSS
0CELTIC_CROSS 0OM_SYMBOL 0DOVE_OF_PEACE 0KAABA 0MOSQUE 0SYNAGOGUE 0MENORAH_WITH_NINE_BRANCHES
0BOWL_OF_HYGIEIA 0CLOCK_FACE_ONE_OCLOCK 2TWO_OCLOCK 2THREE_OCLOCK 2FOUR_OCLOCK 2FIVE_OCLOCK
2SIX_OCLOCK 2SEVEN_OCLOCK 2EIGHT_OCLOCK 2NINE_OCLOCK 2TEN_OCLOCK 2ELEVEN_OCLOCK 2TWELVE_OCLOCK
2ONE-THIRTY 2TWO-THIRTY 2THREE-THIRTY 2FOUR-THIRTY 2FIVE-THIRTY 2SIX-THIRTY 2SEVEN-THIRTY
2EIGHT-THIRTY 2NINE-THIRTY 2TEN-THIRTY 2ELEVEN-THIRTY 2TWELVE-THIRTY 0RIGHT_SPEAKER
2WITH_ONE_SOUND_WAVE 3THREE_SOUND_WAVES 0BULLHORN 1WITH_SOUND_WAVES 0RINGING_BELL 0BOOK 0CANDLE
0MANTELPIECE_CLOCK 0BLACK_SKULL_AND_CROSSBONES 0NO_PIRACY 0HOLE 0MAN_IN_BUSINESS_SUIT_LEVITATING
0SLEUTH_OR_SPY 0DARK_SUNGLASSES 0SPIDER 1WEB 0JOYSTICK 0MAN_DANCING 0LEFT_HAND_TELEPHONE_RECEIVER
0TELEPHONE_RECEIVER_WITH_PAGE 0RIGHT_HAND_TELEPHONE_RECEIVER 0WHITE_TOUCHTONE_TELEPHONE
0BLACK_TOUCHTONE_TELEPHONE 0TELEPHONE_ON_TOP_OF_MODEM 0CLAMSHELL_MOBILE_PHONE 0BACK_OF_ENVELOPE
0STAMPED_ENVELOPE 0ENVELOPE_WITH_LIGHTNING 0FLYING_ENVELOPE 0PEN_OVER_STAMPED_ENVELOPE
0LINKED_PAPERCLIPS 0BLACK_PUSHPIN 0LOWER_LEFT_PENCIL 2BALLPOINT_PEN 2FOUNTAIN_PEN 2PAINTBRUSH
2CRAYON 0LEFT_WRITING_HAND 0TURNED_OK_HAND_SIGN 0RAISED_HAND_WITH_FINGERS_SPLAYED
0REVERSED_RAISED_HAND_WITH_FINGERS_SPLAYED 1THUMBS_UP_SIGN 2DOWN_SIGN 1VICTORY_HAND
1HAND_WITH_MIDDLE_FINGER_EXTENDED 0RAISED_HAND_WITH_PART_BETWEEN_MIDDLE_AND_RING_FINGERS
0WHITE_DOWN_POINTING_LEFT_HAND_INDEX 0SIDEWAYS_WHITE_LEFT_POINTING_INDEX 2RIGHT_POINTING_INDEX
1BLACK_LEFT_POINTING_INDEX 2RIGHT_POINTING_INDEX 0BLACK_LEFT_POINTING_BACKHAND_INDEX
1RIGHT_POINTING_BACKHAND_INDEX 0SIDEWAYS_WHITE_UP_POINTING_INDEX 2DOWN_POINTING_INDEX
1BLACK_UP_POINTING_INDEX 2DOWN_POINTING_INDEX 0BLACK_UP_POINTING_BACKHAND_INDEX
1DOWN_POINTING_BACKHAND_INDEX 1HEART 0DESKTOP_COMPUTER 0KEYBOARD_AND_MOUSE
0THREE_NETWORKED_COMPUTERS 0PRINTER 0POCKET_CALCULATOR 0BLACK_HARD_SHELL_FLOPPY_DISK
0WHITE_HARD_SHELL_FLOPPY_DISK 0SOFT_SHELL_FLOPPY_DISK 0TAPE_CARTRIDGE 0WIRED_KEYBOARD
0ONE_BUTTON_MOUSE 0TWO_BUTTON_MOUSE 0THREE_BUTTON_MOUSE 0TRACKBALL 0OLD_PERSONAL_COMPUTER
0HARD_DISK 0SCREEN 0PRINTER_ICON 0FAX_ICON 0OPTICAL_DISC_ICON 0DOCUMENT_WITH_TEXT 3AND_PICTURE
2PICTURE 0FRAME_WITH_PICTURE 2TILES 2AN_X 0BLACK_FOLDER 0FOLDER 0OPEN_FOLDER 0CARD_INDEX_DIVIDERS
1FILE_BOX 0FILE_CABINET 0EMPTY_NOTE 2PAGE 2PAD 0NOTE 1PAGE 1PAD 0EMPTY_DOCUMENT 1PAGE 1PAGES
0DOCUMENT 0PAGE 0PAGES 0WASTEBASKET 0SPIRAL_NOTE_PAD 1CALENDAR_PAD 0DESKTOP_WINDOW 0MINIMIZE
0MAXIMIZE 0OVERLAP 0CLOCKWISE_RIGHT_AND_LEFT_SEMICIRCLE_ARROWS 0CANCELLATION_X
0INCREASE_FONT_SIZE_SYMBOL 0DECREASE_FONT_SIZE_SYMBOL 0COMPRESSION 0OLD_KEY 0ROLLED-UP_NEWSPAPER
0PAGE_WITH_CIRCLED_TEXT 0STOCK_CHART 0DAGGER_KNIFE 0LIPS 0SPEAKING_HEAD_IN_SILHOUETTE
0THREE_RAYS_ABOVE 2BELOW 2LEFT 2RIGHT 0LEFT_SPEECH_BUBBLE 0RIGHT_SPEECH_BUBBLE 0TWO_SPEECH_BUBBLES
0THREE_SPEECH_BUBBLES 0LEFT_THOUGHT_BUBBLE 0RIGHT_THOUGHT_BUBBLE 0LEFT_ANGER_BUBBLE
0RIGHT_ANGER_BUBBLE 0MOOD_BUBBLE 0LIGHTNING_MOOD_BUBBLE 1MOOD 0BALLOT_BOX_WITH_BALLOT 1SCRIPT_X
1BOX_WITH_SCRIPT_X 1BOLD_SCRIPT_X 1BOX_WITH_BOLD_SCRIPT_X 0LIGHT_CHECK_MARK
0BALLOT_BOX_WITH_BOLD_CHECK 0WORLD_MAP 0MOUNT_FUJI 0TOKYO_TOWER 0STATUE_OF_LIBERTY
0SILHOUETTE_OF_JAPAN 0MOYAI 0GRINNING_FACE 2WITH_SMILING_EYES 0FACE_WITH_TEARS_OF_JOY
0SMILING_FACE_WITH_OPEN_MOUTH 5AND_SMILING_EYES 6COLD_SWEAT 6TIGHTLY-CLOSED_EYES 3HALO 3HORNS
0WINKING_FACE 0SMILING_FACE_WITH_SMILING_EYES 0FACE_SAVOURING_DELICIOUS_FOOD 0RELIEVED_FACE
0SMILING_FACE_WITH_HEART-SHAPED_EYES 3SUNGLASSES 0SMIRKING_FACE 0NEUTRAL_FACE 0EXPRESSIONLESS_FACE
0UNAMUSED_FACE 0FACE_WITH_COLD_SWEAT 0PENSIVE_FACE 0CONFUSED_FACE 0CONFOUNDED_FACE 0KISSING_FACE
0FACE_THROWING_A_KISS 0KISSING_FACE_WITH_SMILING_EYES 3CLOSED_EYES 0FACE_WITH_STUCK-OUT_TONGUE
4AND_WINKING_EYE 5TIGHTLY-CLOSED_EYES 0DISAPPOINTED_FACE 0WORRIED_FACE 0ANGRY_FACE 0POUTING_FACE
0CRYING_FACE 0PERSEVERING_FACE 0FACE_WITH_LOOK_OF_TRIUMPH 0DISAPPOINTED_BUT_RELIEVED_FACE
0FROWNING_FACE_WITH_OPEN_MOUTH 0ANGUISHED_FACE 0FEARFUL_FACE 0WEARY_FACE 0SLEEPY_FACE 0TIRED_FACE
0GRIMACING_FACE 0LOUDLY_CRYING_FACE 0FACE_WITH_OPEN_MOUTH 0HUSHED_FACE
0FACE_WITH_OPEN_MOUTH_AND_COLD_SWEAT 1SCREAMING_IN_FEAR 0ASTONISHED_FACE 0FLUSHED_FACE
0SLEEPING_FACE 0DIZZY_FACE 0FACE_WITHOUT_MOUTH 1WITH_MEDICAL_MASK
0GRINNING_CAT_FACE_WITH_SMILING_EYES 0CAT_FACE_WITH_TEARS_OF_JOY 0SMILING_CAT_FACE_WITH_OPEN_MOUTH
4HEART-SHAPED_EYES 0CAT_FACE_WITH_WRY_SMILE 0KISSING_CAT_FACE_WITH_CLOSED_EYES 0POUTING_CAT_FACE
0CRYING_CAT_FACE 0WEARY_CAT_FACE 0SLIGHTLY_FROWNING_FACE 1SMILING_FACE 0UPSIDE-DOWN_FACE
0FACE_WITH_ROLLING_EYES 2NO_GOOD_GESTURE 2OK_GESTURE 0PERSON_BOWING_DEEPLY 0SEE-NO-EVIL_MONKEY
0HEAR-NO-EVIL_MONKEY 0SPEAK-NO-EVIL_MONKEY 0HAPPY_PERSON_RAISING_ONE_HAND
0PERSON_RAISING_BOTH_HANDS_IN_CELEBRATION 1FROWNING 1WITH_POUTING_FACE 2FOLDED_HANDS
0NORTH_WEST_POINTING_LEAF 0SOUTH_WEST_POINTING_LEAF 0NORTH_EAST_POINTING_LEAF
0SOUTH_EAST_POINTING_LEAF 0TURNED_NORTH_WEST_POINTING_LEAF 1SOUTH_WEST_POINTING_LEAF
1NORTH_EAST_POINTING_LEAF 1SOUTH_EAST_POINTING_LEAF 0NORTH_WEST_POINTING_VINE_LEAF
0SOUTH_WEST_POINTING_VINE_LEAF 0NORTH_EAST_POINTING_VINE_LEAF 0SOUTH_EAST_POINTING_VINE_LEAF
0HEAVY_NORTH_WEST_POINTING_VINE_LEAF 1SOUTH_WEST_POINTING_VINE_LEAF 1NORTH_EAST_POINTING_VINE_LEAF
1SOUTH_EAST_POINTING_VINE_LEAF 0NORTH_WEST_POINTING_BUD 0SOUTH_WEST_POINTING_BUD
0NORTH_EAST_POINTING_BUD 0SOUTH_EAST_POINTING_BUD 0HEAVY_NORTH_WEST_POINTING_BUD
1SOUTH_WEST_POINTING_BUD 1NORTH_EAST_POINTING_BUD 1SOUTH_EAST_POINTING_BUD
0HOLLOW_QUILT_SQUARE_ORNAMENT 4IN_BLACK_SQUARE 0SOLID_QUILT_SQUARE_ORNAMENT 4IN_BLACK_SQUARE
0LEFTWARDS_ROCKET 0UPWARDS_ROCKET 0RIGHTWARDS_ROCKET 0DOWNWARDS_ROCKET
0SCRIPT_LIGATURE_ET_ORNAMENT 0HEAVY_SCRIPT_LIGATURE_ET_ORNAMENT 0LIGATURE_OPEN_ET_ORNAMENT
0HEAVY_LIGATURE_OPEN_ET_ORNAMENT 1AMPERSAND_ORNAMENT 0SWASH_AMPERSAND_ORNAMENT
0SANS-SERIF_HEAVY_DOUBLE_TURNED_COMMA_QUOTATION_MARK_ORNAMENT 3COMMA_QUOTATION_MARK_ORNAMENT
2LOW_DOUBLE_COMMA_QUOTATION_MARK_ORNAMENT 0HEAVY_INTERROBANG_ORNAMENT
0SANS-SERIF_INTERROBANG_ORNAMENT 0HEAVY_SANS-SERIF_INTERROBANG_ORNAMENT 0VERY_HEAVY_SOLIDUS
2REVERSE_SOLIDUS 0CHECKER_BOARD 0REVERSE_CHECKER_BOARD 0ROCKET 0HELICOPTER 0STEAM_LOCOMOTIVE
0RAILWAY_CAR 0HIGH-SPEED_TRAIN 2WITH_BULLET_NOSE 0TRAIN 0METRO 0LIGHT_RAIL 0STATION 0TRAM 1CAR
0BUS 0ONCOMING_BUS 0TROLLEYBUS 0BUS_STOP 0MINIBUS 0AMBULANCE 0FIRE_ENGINE 0POLICE_CAR
0ONCOMING_POLICE_CAR 0TAXI 0ONCOMING_TAXI 0AUTOMOBILE 0ONCOMING_AUTOMOBILE 0RECREATIONAL_VEHICLE
0DELIVERY_TRUCK 0ARTICULATED_LORRY 0TRACTOR 0MONORAIL 0MOUNTAIN_RAILWAY 0SUSPENSION_RAILWAY
0MOUNTAIN_CABLEWAY 0AERIAL_TRAMWAY 0SHIP 0ROWBOAT 0SPEEDBOAT 0HORIZONTAL_TRAFFIC_LIGHT
0VERTICAL_TRAFFIC_LIGHT 0CONSTRUCTION_SIGN 0POLICE_CARS_REVOLVING_LIGHT 0TRIANGULAR_FLAG_ON_POST
0DOOR 0NO_ENTRY_SIGN 0SMOKING_SYMBOL 0NO_SMOKING_SYMBOL 0PUT_LITTER_IN_ITS_PLACE_SYMBOL
0DO_NOT_LITTER_SYMBOL 0POTABLE_WATER_SYMBOL 0NON-POTABLE_WATER_SYMBOL 0BICYCLE 0NO_BICYCLES
0BICYCLIST 0MOUNTAIN_BICYCLIST 0PEDESTRIAN 0NO_PEDESTRIANS 0CHILDREN_CROSSING 0MENS_SYMBOL
0WOMENS_SYMBOL 0RESTROOM 0BABY_SYMBOL 0TOILET 0WATER_CLOSET 0SHOWER 0BATH 0BATHTUB
0PASSPORT_CONTROL 0CUSTOMS 0BAGGAGE_CLAIM 0LEFT_LUGGAGE 0TRIANGLE_WITH_ROUNDED_CORNERS
0PROHIBITED_SIGN 0CIRCLED_INFORMATION_SOURCE 0BOYS_SYMBOL 0GIRLS_SYMBOL 0COUCH_AND_LAMP
0SLEEPING_ACCOMMODATION 0SHOPPING_BAGS 0BELLHOP_BELL 0BED 0PLACE_OF_WORSHIP 0OCTAGONAL_SIGN
0SHOPPING_TROLLEY 0STUPA 0PAGODA 0HINDU_TEMPLE 0HUT 0ELEVATOR @1F6DD 0PLAYGROUND_SLIDE 0WHEEL
0RING_BUOY 0HAMMER_AND_WRENCH 0SHIELD 0OIL_DRUM 0MOTORWAY 0RAILWAY_TRACK 0MOTOR_BOAT
0UP-POINTING_MILITARY_AIRPLANE 1AIRPLANE 1SMALL_AIRPLANE 0SMALL_AIRPLANE
0NORTHEAST-POINTING_AIRPLANE 0AIRPLANE_DEPARTURE 1ARRIVING @1F6F0 0SATELLITE 0ONCOMING_FIRE_ENGINE
0DIESEL_LOCOMOTIVE 0PASSENGER_SHIP 0SCOOTER 0MOTOR_SCOOTER 0CANOE 0SLED 0FLYING_SAUCER 0SKATEBOARD
0AUTO_RICKSHAW 0PICKUP_TRUCK 0ROLLER_SKATE @1F700 0ALCHEMICAL_SYMBOL_FOR_QUINTESSENCE 3AIR 3FIRE
3EARTH 3WATER 3AQUAFORTIS 3AQUA_REGIA 4REGIA-2 4VITAE 4VITAE-2 3VINEGAR 3VINEGAR-2 + 3SULFUR
3PHILOSOPHERS_SULFUR 3BLACK_SULFUR 3MERCURY_SUBLIMATE 4SUBLIMATE-2 + 3CINNABAR 3SALT 3NITRE
3VITRIOL 3VITRIOL-2 3ROCK_SALT 4SALT-2 3GOLD 3SILVER 3IRON_ORE 4ORE-2 3CROCUS_OF_IRON
3REGULUS_OF_IRON 3COPPER_ORE 3IRON-COPPER_ORE 3SUBLIMATE_OF_COPPER 3CROCUS_OF_COPPER 5COPPER-2
3COPPER_ANTIMONIATE 3SALT_OF_COPPER_ANTIMONIATE 3SUBLIMATE_OF_SALT_OF_COPPER 3VERDIGRIS 3TIN_ORE
3LEAD_ORE 3ANTIMONY_ORE 3SUBLIMATE_OF_ANTIMONY 3SALT_OF_ANTIMONY 3SUBLIMATE_OF_SALT_OF_ANTIMONY
3VINEGAR_OF_ANTIMONY 3REGULUS_OF_ANTIMONY 5ANTIMONY-2 3REGULUS 3REGULUS-2 + + 3ALKALI 3ALKALI-2
3MARCASITE 3SAL-AMMONIAC 3ARSENIC 3REALGAR 3REALGAR-2 3AURIPIGMENT 3BISMUTH_ORE 3TARTAR 3TARTAR-2
3QUICK_LIME 3BORAX 3BORAX-2 + 3ALUM 3OIL 3SPIRIT 3TINCTURE 3GUM 3WAX 3POWDER 3CALX 3TUTTY
3CAPUT_MORTUUM 3SCEPTER_OF_JOVE 3CADUCEUS 3TRIDENT 3STARRED_TRIDENT 3LODESTONE 3SOAP 3URINE
3HORSE_DUNG 3ASHES 3POT_ASHES 3BRICK 3POWDERED_BRICK 3AMALGAM 3STRATUM_SUPER_STRATUM 5STRATUM-2
3SUBLIMATION 3PRECIPITATE 3DISTILL 3DISSOLVE 3DISSOLVE-2 3PURIFY 3PUTREFACTION 3CRUCIBLE
3CRUCIBLE-2 + + + 3ALEMBIC 3BATH_OF_MARY 5VAPOURS 3RETORT 3HOUR 3NIGHT 3DAY-NIGHT 3MONTH
3HALF_DRAM 4OUNCE @1F780 0BLACK_LEFT-POINTING_ISOSCELES_RIGHT_TRIANGLE
1UP-POINTING_ISOSCELES_RIGHT_TRIANGLE 1RIGHT-POINTING_ISOSCELES_RIGHT_TRIANGLE
1DOWN-POINTING_ISOSCELES_RIGHT_TRIANGLE 1SLIGHTLY_SMALL_CIRCLE 0MEDIUM_BOLD_WHITE_CIRCLE
0BOLD_WHITE_CIRCLE 0HEAVY_WHITE_CIRCLE 0VERY_HEAVY_WHITE_CIRCLE 0EXTREMELY_HEAVY_WHITE_CIRCLE
0WHITE_CIRCLE_CONTAINING_BLACK_SMALL_CIRCLE 0ROUND_TARGET 0BLACK_TINY_SQUARE
1SLIGHTLY_SMALL_SQUARE 0LIGHT_WHITE_SQUARE 0MEDIUM_WHITE_SQUARE 0BOLD_WHITE_SQUARE
0HEAVY_WHITE_SQUARE 0VERY_HEAVY_WHITE_SQUARE 0EXTREMELY_HEAVY_WHITE_SQUARE
0WHITE_SQUARE_CONTAINING_BLACK_VERY_SMALL_SQUARE 4MEDIUM_SQUARE 0SQUARE_TARGET 0BLACK_TINY_DIAMOND
1VERY_SMALL_DIAMOND 1MEDIUM_SMALL_DIAMOND 0WHITE_DIAMOND_CONTAINING_BLACK_VERY_SMALL_DIAMOND
4MEDIUM_DIAMOND 0DIAMOND_TARGET 0BLACK_TINY_LOZENGE 1VERY_SMALL_LOZENGE 1MEDIUM_SMALL_LOZENGE
0WHITE_LOZENGE_CONTAINING_BLACK_SMALL_LOZENGE 0THIN_GREEK_CROSS 0LIGHT_GREEK_CROSS
0MEDIUM_GREEK_CROSS 0BOLD_GREEK_CROSS 0VERY_BOLD_GREEK_CROSS 1HEAVY_GREEK_CROSS
0EXTREMELY_HEAVY_GREEK_CROSS 0THIN_SALTIRE 0LIGHT_SALTIRE 0MEDIUM_SALTIRE 0BOLD_SALTIRE
0HEAVY_SALTIRE 0VERY_HEAVY_SALTIRE 0EXTREMELY_HEAVY_SALTIRE 0LIGHT_FIVE_SPOKED_ASTERISK
0MEDIUM_FIVE_SPOKED_ASTERISK 0BOLD_FIVE_SPOKED_ASTERISK 0HEAVY_FIVE_SPOKED_ASTERISK
0VERY_HEAVY_FIVE_SPOKED_ASTERISK 0EXTREMELY_HEAVY_FIVE_SPOKED_ASTERISK 0LIGHT_SIX_SPOKED_ASTERISK
0MEDIUM_SIX_SPOKED_ASTERISK 0BOLD_SIX_SPOKED_ASTERISK 0HEAVY_SIX_SPOKED_ASTERISK
0VERY_HEAVY_SIX_SPOKED_ASTERISK 0EXTREMELY_HEAVY_SIX_SPOKED_ASTERISK 0LIGHT_EIGHT_SPOKED_ASTERISK
0MEDIUM_EIGHT_SPOKED_ASTERISK 0BOLD_EIGHT_SPOKED_ASTERISK 0HEAVY_EIGHT_SPOKED_ASTERISK
0VERY_HEAVY_EIGHT_SPOKED_ASTERISK 0LIGHT_THREE_POINTED_BLACK_STAR 0MEDIUM_THREE_POINTED_BLACK_STAR
0THREE_POINTED_BLACK_STAR 0MEDIUM_THREE_POINTED_PINWHEEL_STAR 0LIGHT_FOUR_POINTED_BLACK_STAR
0MEDIUM_FOUR_POINTED_BLACK_STAR 0FOUR_POINTED_BLACK_STAR 0MEDIUM_FOUR_POINTED_PINWHEEL_STAR
0REVERSE_LIGHT_FOUR_POINTED_PINWHEEL_STAR 0LIGHT_FIVE_POINTED_BLACK_STAR
0HEAVY_FIVE_POINTED_BLACK_STAR 0MEDIUM_SIX_POINTED_BLACK_STAR 0HEAVY_SIX_POINTED_BLACK_STAR
0SIX_POINTED_PINWHEEL_STAR 0MEDIUM_EIGHT_POINTED_BLACK_STAR 0HEAVY_EIGHT_POINTED_BLACK_STAR
0VERY_HEAVY_EIGHT_POINTED_BLACK_STAR 0HEAVY_EIGHT_POINTED_PINWHEEL_STAR
0LIGHT_TWELVE_POINTED_BLACK_STAR 0HEAVY_TWELVE_POINTED_BLACK_STAR 3PINWHEEL_STAR 0CIRCLED_TRIANGLE
0NEGATIVE_CIRCLED_TRIANGLE 0CIRCLED_SQUARE 0NEGATIVE_CIRCLED_SQUARE @1F7E0 0LARGE_ORANGE_CIRCLE
1YELLOW_CIRCLE 1GREEN_CIRCLE 1PURPLE_CIRCLE 1BROWN_CIRCLE 1RED_SQUARE 1BLUE_SQUARE 1ORANGE_SQUARE
1YELLOW_SQUARE 1GREEN_SQUARE 1PURPLE_SQUARE 1BROWN_SQUARE @1F7F0 0HEAVY_EQUALS_SIGN @1F800
0LEFTWARDS_ARROW_WITH_SMALL_TRIANGLE_ARROWHEAD 0UPWARDS_ARROW_WITH_SMALL_TRIANGLE_ARROWHEAD
0RIGHTWARDS_ARROW_WITH_SMALL_TRIANGLE_ARROWHEAD 0DOWNWARDS_ARROW_WITH_SMALL_TRIANGLE_ARROWHEAD
0LEFTWARDS_ARROW_WITH_MEDIUM_TRIANGLE_ARROWHEAD 0UPWARDS_ARROW_WITH_MEDIUM_TRIANGLE_ARROWHEAD
0RIGHTWARDS_ARROW_WITH_MEDIUM_TRIANGLE_ARROWHEAD 0DOWNWARDS_ARROW_WITH_MEDIUM_TRIANGLE_ARROWHEAD
0LEFTWARDS_ARROW_WITH_LARGE_TRIANGLE_ARROWHEAD 0UPWARDS_ARROW_WITH_LARGE_TRIANGLE_ARROWHEAD
0RIGHTWARDS_ARROW_WITH_LARGE_TRIANGLE_ARROWHEAD 0DOWNWARDS_ARROW_WITH_LARGE_TRIANGLE_ARROWHEAD
@1F810 0LEFTWARDS_ARROW_WITH_SMALL_EQUILATERAL_ARROWHEAD
0UPWARDS_ARROW_WITH_SMALL_EQUILATERAL_ARROWHEAD 0RIGHTWARDS_ARROW_WITH_SMALL_EQUILATERAL_ARROWHEAD
0DOWNWARDS_ARROW_WITH_SMALL_EQUILATERAL_ARROWHEAD 0LEFTWARDS_ARROW_WITH_EQUILATERAL_ARROWHEAD
0UPWARDS_ARROW_WITH_EQUILATERAL_ARROWHEAD 0RIGHTWARDS_ARROW_WITH_EQUILATERAL_ARROWHEAD
0DOWNWARDS_ARROW_WITH_EQUILATERAL_ARROWHEAD 0HEAVY_LEFTWARDS_ARROW_WITH_EQUILATERAL_ARROWHEAD
1UPWARDS_ARROW_WITH_EQUILATERAL_ARROWHEAD 1RIGHTWARDS_ARROW_WITH_EQUILATERAL_ARROWHEAD
1DOWNWARDS_ARROW_WITH_EQUILATERAL_ARROWHEAD 1LEFTWARDS_ARROW_WITH_LARGE_EQUILATERAL_ARROWHEAD
1UPWARDS_ARROW_WITH_LARGE_EQUILATERAL_ARROWHEAD 1RIGHTWARDS_ARROW_WITH_LARGE_EQUILATERAL_ARROWHEAD
1DOWNWARDS_ARROW_WITH_LARGE_EQUILATERAL_ARROWHEAD
0LEFTWARDS_TRIANGLE-HEADED_ARROW_WITH_NARROW_SHAFT
0UPWARDS_TRIANGLE-HEADED_ARROW_WITH_NARROW_SHAFT
0RIGHTWARDS_TRIANGLE-HEADED_ARROW_WITH_NARROW_SHAFT
0DOWNWARDS_TRIANGLE-HEADED_ARROW_WITH_NARROW_SHAFT
0LEFTWARDS_TRIANGLE-HEADED_ARROW_WITH_MEDIUM_SHAFT
0UPWARDS_TRIANGLE-HEADED_ARROW_WITH_MEDIUM_SHAFT
0RIGHTWARDS_TRIANGLE-HEADED_ARROW_WITH_MEDIUM_SHAFT
0DOWNWARDS_TRIANGLE-HEADED_ARROW_WITH_MEDIUM_SHAFT
0LEFTWARDS_TRIANGLE-HEADED_ARROW_WITH_BOLD_SHAFT 0UPWARDS_TRIANGLE-HEADED_ARROW_WITH_BOLD_SHAFT
0RIGHTWARDS_TRIANGLE-HEADED_ARROW_WITH_BOLD_SHAFT 0DOWNWARDS_TRIANGLE-HEADED_ARROW_WITH_BOLD_SHAFT
0LEFTWARDS_TRIANGLE-HEADED_ARROW_WITH_HEAVY_SHAFT 0UPWARDS_TRIANGLE-HEADED_ARROW_WITH_HEAVY_SHAFT
0RIGHTWARDS_TRIANGLE-HEADED_ARROW_WITH_HEAVY_SHAFT
0DOWNWARDS_TRIANGLE-HEADED_ARROW_WITH_HEAVY_SHAFT
0LEFTWARDS_TRIANGLE-HEADED_ARROW_WITH_VERY_HEAVY_SHAFT
0UPWARDS_TRIANGLE-HEADED_ARROW_WITH_VERY_HEAVY_SHAFT
0RIGHTWARDS_TRIANGLE-HEADED_ARROW_WITH_VERY_HEAVY_SHAFT
0DOWNWARDS_TRIANGLE-HEADED_ARROW_WITH_VERY_HEAVY_SHAFT 0LEFTWARDS_FINGER-POST_ARROW
0UPWARDS_FINGER-POST_ARROW 0RIGHTWARDS_FINGER-POST_ARROW 0DOWNWARDS_FINGER-POST_ARROW
0LEFTWARDS_SQUARED_ARROW 0UPWARDS_SQUARED_ARROW 0RIGHTWARDS_SQUARED_ARROW 0DOWNWARDS_SQUARED_ARROW
0LEFTWARDS_COMPRESSED_ARROW 0UPWARDS_COMPRESSED_ARROW 0RIGHTWARDS_COMPRESSED_ARROW
0DOWNWARDS_COMPRESSED_ARROW 0LEFTWARDS_HEAVY_COMPRESSED_ARROW 0UPWARDS_HEAVY_COMPRESSED_ARROW
0RIGHTWARDS_HEAVY_COMPRESSED_ARROW 0DOWNWARDS_HEAVY_COMPRESSED_ARROW 0LEFTWARDS_HEAVY_ARROW
0UPWARDS_HEAVY_ARROW 0RIGHTWARDS_HEAVY_ARROW 0DOWNWARDS_HEAVY_ARROW @1F850
0LEFTWARDS_SANS-SERIF_ARROW 0UPWARDS_SANS-SERIF_ARROW 0RIGHTWARDS_SANS-SERIF_ARROW
0DOWNWARDS_SANS-SERIF_ARROW 0NORTH_WEST_SANS-SERIF_ARROW 1EAST_SANS-SERIF_ARROW
0SOUTH_EAST_SANS-SERIF_ARROW 1WEST_SANS-SERIF_ARROW 0LEFT_RIGHT_SANS-SERIF_ARROW
0UP_DOWN_SANS-SERIF_ARROW @1F860 0WIDE-HEADED_LEFTWARDS_LIGHT_BARB_ARROW 1UPWARDS_LIGHT_BARB_ARROW
1RIGHTWARDS_LIGHT_BARB_ARROW 1DOWNWARDS_LIGHT_BARB_ARROW 1NORTH_WEST_LIGHT_BARB_ARROW
2EAST_LIGHT_BARB_ARROW 1SOUTH_EAST_LIGHT_BARB_ARROW 2WEST_LIGHT_BARB_ARROW 1LEFTWARDS_BARB_ARROW
1UPWARDS_BARB_ARROW 1RIGHTWARDS_BARB_ARROW 1DOWNWARDS_BARB_ARROW 1NORTH_WEST_BARB_ARROW
2EAST_BARB_ARROW 1SOUTH_EAST_BARB_ARROW 2WEST_BARB_ARROW 1LEFTWARDS_MEDIUM_BARB_ARROW
1UPWARDS_MEDIUM_BARB_ARROW 1RIGHTWARDS_MEDIUM_BARB_ARROW 1DOWNWARDS_MEDIUM_BARB_ARROW
1NORTH_WEST_MEDIUM_BARB_ARROW 2EAST_MEDIUM_BARB_ARROW 1SOUTH_EAST_MEDIUM_BARB_ARROW
2WEST_MEDIUM_BARB_ARROW 1LEFTWARDS_HEAVY_BARB_ARROW 1UPWARDS_HEAVY_BARB_ARROW
1RIGHTWARDS_HEAVY_BARB_ARROW 1DOWNWARDS_HEAVY_BARB_ARROW 1NORTH_WEST_HEAVY_BARB_ARROW
2EAST_HEAVY_BARB_ARROW 1SOUTH_EAST_HEAVY_BARB_ARROW 2WEST_HEAVY_BARB_ARROW
1LEFTWARDS_VERY_HEAVY_BARB_ARROW 1UPWARDS_VERY_HEAVY_BARB_ARROW 1RIGHTWARDS_VERY_HEAVY_BARB_ARROW
1DOWNWARDS_VERY_HEAVY_BARB_ARROW 1NORTH_WEST_VERY_HEAVY_BARB_ARROW 2EAST_VERY_HEAVY_BARB_ARROW
1SOUTH_EAST_VERY_HEAVY_BARB_ARROW 2WEST_VERY_HEAVY_BARB_ARROW @1F890 0LEFTWARDS_TRIANGLE_ARROWHEAD
0UPWARDS_TRIANGLE_ARROWHEAD 0RIGHTWARDS_TRIANGLE_ARROWHEAD 0DOWNWARDS_TRIANGLE_ARROWHEAD
0LEFTWARDS_WHITE_ARROW_WITHIN_TRIANGLE_ARROWHEAD 0UPWARDS_WHITE_ARROW_WITHIN_TRIANGLE_ARROWHEAD
0RIGHTWARDS_WHITE_ARROW_WITHIN_TRIANGLE_ARROWHEAD 0DOWNWARDS_WHITE_ARROW_WITHIN_TRIANGLE_ARROWHEAD
0LEFTWARDS_ARROW_WITH_NOTCHED_TAIL 0UPWARDS_ARROW_WITH_NOTCHED_TAIL
0RIGHTWARDS_ARROW_WITH_NOTCHED_TAIL 0DOWNWARDS_ARROW_WITH_NOTCHED_TAIL
0HEAVY_ARROW_SHAFT_WIDTH_ONE 4TWO_THIRDS 4ONE_HALF 5THIRD 0LEFTWARDS_BOTTOM-SHADED_WHITE_ARROW
0RIGHTWARDS_BOTTOM_SHADED_WHITE_ARROW 0LEFTWARDS_TOP_SHADED_WHITE_ARROW
0RIGHTWARDS_TOP_SHADED_WHITE_ARROW 0LEFTWARDS_LEFT-SHADED_WHITE_ARROW
0RIGHTWARDS_RIGHT-SHADED_WHITE_ARROW 0LEFTWARDS_RIGHT-SHADED_WHITE_ARROW
0RIGHTWARDS_LEFT-SHADED_WHITE_ARROW 0LEFTWARDS_BACK-TILTED_SHADOWED_WHITE_ARROW
0RIGHTWARDS_BACK-TILTED_SHADOWED_WHITE_ARROW 0LEFTWARDS_FRONT-TILTED_SHADOWED_WHITE_ARROW
0RIGHTWARDS_FRONT-TILTED_SHADOWED_WHITE_ARROW 0WHITE_ARROW_SHAFT_WIDTH_ONE 4TWO_THIRDS @1F8B0
0ARROW_POINTING_UPWARDS_THEN_NORTH_WEST 2RIGHTWARDS_THEN_CURVING_SOUTH_WEST @1F900
0CIRCLED_CROSS_FORMEE_WITH_FOUR_DOTS 4TWO_DOTS 2FORMEE 0LEFT_HALF_CIRCLE_WITH_FOUR_DOTS
4THREE_DOTS 4TWO_DOTS 4DOT 2CIRCLE 0DOWNWARD_FACING_HOOK 2NOTCHED_HOOK 2HOOK_WITH_DOT
2NOTCHED_HOOK_WITH_DOT 0PINCHED_FINGERS 0WHITE_HEART 0BROWN_HEART 0PINCHING_HAND
0ZIPPER-MOUTH_FACE 0MONEY-MOUTH_FACE 0FACE_WITH_THERMOMETER 0NERD_FACE 0THINKING_FACE
0FACE_WITH_HEAD-BANDAGE 0ROBOT_FACE 0HUGGING_FACE 0SIGN_OF_THE_HORNS 0CALL_ME_HAND
0RAISED_BACK_OF_HAND 0LEFT-FACING_FIST 0RIGHT-FACING_FIST 0HANDSHAKE
0HAND_WITH_INDEX_AND_MIDDLE_FINGERS_CROSSED 0I_LOVE_YOU_HAND_SIGN 0FACE_WITH_COWBOY_HAT
0CLOWN_FACE 0NAUSEATED_FACE 0ROLLING_ON_THE_FLOOR_LAUGHING 0DROOLING_FACE 0LYING_FACE 0FACE_PALM
0SNEEZING_FACE 0FACE_WITH_ONE_EYEBROW_RAISED 0GRINNING_FACE_WITH_STAR_EYES
3ONE_LARGE_AND_ONE_SMALL_EYE 0FACE_WITH_FINGER_COVERING_CLOSED_LIPS
0SERIOUS_FACE_WITH_SYMBOLS_COVERING_MOUTH 0SMILING_FACE_WITH_SMILING_EYES_AND_HAND_COVERING_MOUTH
0FACE_WITH_OPEN_MOUTH_VOMITING 0SHOCKED_FACE_WITH_EXPLODING_HEAD 0PREGNANT_WOMAN 0BREAST-FEEDING
0PALMS_UP_TOGETHER 0SELFIE 0PRINCE 0MAN_IN_TUXEDO 0MOTHER_CHRISTMAS 0SHRUG 0PERSON_DOING_CARTWHEEL
0JUGGLING 0FENCER 0MODERN_PENTATHLON 0WRESTLERS 0WATER_POLO 0HANDBALL 0DIVING_MASK 0WILTED_FLOWER
0DRUM_WITH_DRUMSTICKS 0CLINKING_GLASSES 0TUMBLER_GLASS 0SPOON 0GOAL_NET 0RIFLE 0FIRST_PLACE_MEDAL
0SECOND_PLACE_MEDAL 0THIRD_PLACE_MEDAL 0BOXING_GLOVE 0MARTIAL_ARTS_UNIFORM 0CURLING_STONE
0LACROSSE_STICK_AND_BALL 0SOFTBALL 0FLYING_DISC 0CROISSANT 0AVOCADO 0CUCUMBER 0BACON 0POTATO
0CARROT 0BAGUETTE_BREAD 0GREEN_SALAD 0SHALLOW_PAN_OF_FOOD 0STUFFED_FLATBREAD 0EGG 0GLASS_OF_MILK
0PEANUTS 0KIWIFRUIT 0PANCAKES 0DUMPLING 0FORTUNE_COOKIE 0TAKEOUT_BOX 0CHOPSTICKS 0BOWL_WITH_SPOON
0CUP_WITH_STRAW 0COCONUT 0BROCCOLI 0PIE 0PRETZEL 0CUT_OF_MEAT 0SANDWICH 0CANNED_FOOD 0LEAFY_GREEN
0MANGO 0MOON_CAKE 0BAGEL 0SMILING_FACE_WITH_SMILING_EYES_AND_THREE_HEARTS 0YAWNING_FACE
0SMILING_FACE_WITH_TEAR 0FACE_WITH_PARTY_HORN_AND_PARTY_HAT 2UNEVEN_EYES_AND_WAVY_MOUTH
0OVERHEATED_FACE 0FREEZING_FACE 0NINJA 0DISGUISED_FACE 0FACE_HOLDING_BACK_TEARS
1WITH_PLEADING_EYES 0SARI 0LAB_COAT 0GOGGLES 0HIKING_BOOT 0FLAT_SHOE 0CRAB 0LION_FACE 0SCORPION
0TURKEY 0UNICORN_FACE 0EAGLE 0DUCK 0BAT 0SHARK 0OWL 0FOX_FACE 0BUTTERFLY 0DEER 0GORILLA 0LIZARD
0RHINOCEROS 0SHRIMP 0SQUID 0GIRAFFE_FACE 0ZEBRA_FACE 0HEDGEHOG 0SAUROPOD 0T-REX 0CRICKET 0KANGAROO
0LLAMA 0PEACOCK 0HIPPOPOTAMUS 0PARROT 0RACCOON 0LOBSTER 0MOSQUITO 0MICROBE 0BADGER 0SWAN 0MAMMOTH
0DODO 0SLOTH 0OTTER 0ORANGUTAN 0SKUNK 0FLAMINGO 0OYSTER 0BEAVER 0BISON 0SEAL 0GUIDE_DOG
0PROBING_CANE 0EMOJI_COMPONENT_RED_HAIR 2CURLY_HAIR 2BALD 2WHITE_HAIR 0BONE 0LEG 0FOOT 0TOOTH
0SUPERHERO 0SUPERVILLAIN 0SAFETY_VEST 0EAR_WITH_HEARING_AID 0MOTORIZED_WHEELCHAIR
0MANUAL_WHEELCHAIR 0MECHANICAL_ARM 1LEG 0CHEESE_WEDGE 0CUPCAKE 0SALT_SHAKER 0BEVERAGE_BOX 0GARLIC
0ONION 0FALAFEL 0WAFFLE 0BUTTER 0MATE_DRINK 0ICE_CUBE 0BUBBLE_TEA 0TROLL 0STANDING_PERSON
0KNEELING_PERSON 0DEAF_PERSON 0FACE_WITH_MONOCLE 0ADULT 0CHILD 0OLDER_ADULT 0BEARDED_PERSON
0PERSON_WITH_HEADSCARF 1IN_STEAMY_ROOM 1CLIMBING 1IN_LOTUS_POSITION 0MAGE 0FAIRY 0VAMPIRE
0MERPERSON 0ELF 0GENIE 0ZOMBIE 0BRAIN 0ORANGE_HEART 0BILLED_CAP 0SCARF 0GLOVES 0COAT 0SOCKS
0RED_GIFT_ENVELOPE 0FIRECRACKER 0JIGSAW_PUZZLE_PIECE 0TEST_TUBE 0PETRI_DISH 0DNA_DOUBLE_HELIX
0COMPASS 0ABACUS 0FIRE_EXTINGUISHER 0TOOLBOX 0BRICK 0MAGNET 0LUGGAGE 0LOTION_BOTTLE
0SPOOL_OF_THREAD 0BALL_OF_YARN 0SAFETY_PIN 0TEDDY_BEAR 0BROOM 0BASKET 0ROLL_OF_PAPER 0BAR_OF_SOAP
0SPONGE 0RECEIPT 0NAZAR_AMULET 0NEUTRAL_CHESS_KING 2QUEEN 2ROOK 2BISHOP 2KNIGHT 2PAWN
0WHITE_CHESS_KNIGHT_ROTATED_FORTY-FIVE_DEGREES 0BLACK_CHESS_KNIGHT_ROTATED_FORTY-FIVE_DEGREES
0NEUTRAL_CHESS_KNIGHT_ROTATED_FORTY-FIVE_DEGREES 0WHITE_CHESS_KING_ROTATED_NINETY_DEGREES
2QUEEN_ROTATED_NINETY_DEGREES 2ROOK_ROTATED_NINETY_DEGREES 2BISHOP_ROTATED_NINETY_DEGREES
2KNIGHT_ROTATED_NINETY_DEGREES 2PAWN_ROTATED_NINETY_DEGREES
0BLACK_CHESS_KING_ROTATED_NINETY_DEGREES 2QUEEN_ROTATED_NINETY_DEGREES
2ROOK_ROTATED_NINETY_DEGREES 2BISHOP_ROTATED_NINETY_DEGREES 2KNIGHT_ROTATED_NINETY_DEGREES
2PAWN_ROTATED_NINETY_DEGREES 0NEUTRAL_CHESS_KING_ROTATED_NINETY_DEGREES
2QUEEN_ROTATED_NINETY_DEGREES 2ROOK_ROTATED_NINETY_DEGREES 2BISHOP_ROTATED_NINETY_DEGREES
2KNIGHT_ROTATED_NINETY_DEGREES 2PAWN_ROTATED_NINETY_DEGREES
0WHITE_CHESS_KNIGHT_ROTATED_ONE_HUNDRED_THIRTY-FIVE_DEGREES
0BLACK_CHESS_KNIGHT_ROTATED_ONE_HUNDRED_THIRTY-FIVE_DEGREES
0NEUTRAL_CHESS_KNIGHT_ROTATED_ONE_HUNDRED_THIRTY-FIVE_DEGREES 0WHITE_CHESS_TURNED_KING 3QUEEN
3ROOK 3BISHOP 3KNIGHT 3PAWN 0BLACK_CHESS_TURNED_KING 3QUEEN 3ROOK 3BISHOP 3KNIGHT 3PAWN
0NEUTRAL_CHESS_TURNED_KING 3QUEEN 3ROOK 3BISHOP 3KNIGHT 3PAWN
0WHITE_CHESS_KNIGHT_ROTATED_TWO_HUNDRED_TWENTY-FIVE_DEGREES
0BLACK_CHESS_KNIGHT_ROTATED_TWO_HUNDRED_TWENTY-FIVE_DEGREES
0NEUTRAL_CHESS_KNIGHT_ROTATED_TWO_HUNDRED_TWENTY-FIVE_DEGREES
0WHITE_CHESS_KING_ROTATED_TWO_HUNDRED_SEVENTY_DEGREES 2QUEEN_ROTATED_TWO_HUNDRED_SEVENTY_DEGREES
2ROOK_ROTATED_TWO_HUNDRED_SEVENTY_DEGREES 2BISHOP_ROTATED_TWO_HUNDRED_SEVENTY_DEGREES
2KNIGHT_ROTATED_TWO_HUNDRED_SEVENTY_DEGREES 2PAWN_ROTATED_TWO_HUNDRED_SEVENTY_DEGREES
0BLACK_CHESS_KING_ROTATED_TWO_HUNDRED_SEVENTY_DEGREES 2QUEEN_ROTATED_TWO_HUNDRED_SEVENTY_DEGREES
2ROOK_ROTATED_TWO_HUNDRED_SEVENTY_DEGREES 2BISHOP_ROTATED_TWO_HUNDRED_SEVENTY_DEGREES
2KNIGHT_ROTATED_TWO_HUNDRED_SEVENTY_DEGREES 2PAWN_ROTATED_TWO_HUNDRED_SEVENTY_DEGREES
0NEUTRAL_CHESS_KING_ROTATED_TWO_HUNDRED_SEVENTY_DEGREES 2QUEEN_ROTATED_TWO_HUNDRED_SEVENTY_DEGREES
2ROOK_ROTATED_TWO_HUNDRED_SEVENTY_DEGREES 2BISHOP_ROTATED_TWO_HUNDRED_SEVENTY_DEGREES
2KNIGHT_ROTATED_TWO_HUNDRED_SEVENTY_DEGREES 2PAWN_ROTATED_TWO_HUNDRED_SEVENTY_DEGREES
0WHITE_CHESS_KNIGHT_ROTATED_THREE_HUNDRED_FIFTEEN_DEGREES
0BLACK_CHESS_KNIGHT_ROTATED_THREE_HUNDRED_FIFTEEN_DEGREES
0NEUTRAL_CHESS_KNIGHT_ROTATED_THREE_HUNDRED_FIFTEEN_DEGREES 0WHITE_CHESS_EQUIHOPPER
0BLACK_CHESS_EQUIHOPPER 0NEUTRAL_CHESS_EQUIHOPPER 0WHITE_CHESS_EQUIHOPPER_ROTATED_NINETY_DEGREES
0BLACK_CHESS_EQUIHOPPER_ROTATED_NINETY_DEGREES 0NEUTRAL_CHESS_EQUIHOPPER_ROTATED_NINETY_DEGREES
0WHITE_CHESS_KNIGHT-QUEEN 2KNIGHT-ROOK 2KNIGHT-BISHOP 0BLACK_CHESS_KNIGHT-QUEEN 2KNIGHT-ROOK
2KNIGHT-BISHOP @1FA60 0XIANGQI_RED_GENERAL 2MANDARIN 2ELEPHANT 2HORSE 2CHARIOT 2CANNON 2SOLDIER
1BLACK_GENERAL 2MANDARIN 2ELEPHANT 2HORSE 2CHARIOT 2CANNON 2SOLDIER @1FA70 0BALLET_SHOES
0ONE-PIECE_SWIMSUIT 0BRIEFS 0SHORTS 0THONG_SANDAL @1FA78 0DROP_OF_BLOOD 0ADHESIVE_BANDAGE
0STETHOSCOPE 0X-RAY 0CRUTCH @1FA80 0YO-YO 0KITE 0PARACHUTE 0BOOMERANG 0MAGIC_WAND 0PINATA
0NESTING_DOLLS @1FA90 0RINGED_PLANET 0CHAIR 0RAZOR 0AXE 0DIYA_LAMP 0BANJO 0MILITARY_HELMET
0ACCORDION 0LONG_DRUM 0COIN 0CARPENTRY_SAW 0SCREWDRIVER 0LADDER 0HOOK 0MIRROR 0WINDOW 0PLUNGER
0SEWING_NEEDLE 0KNOT 0BUCKET 0MOUSE_TRAP 0TOOTHBRUSH 0HEADSTONE 0PLACARD 0ROCK 0MIRROR_BALL
0IDENTIFICATION_CARD 0LOW_BATTERY 0HAMSA @1FAB0 0FLY 0WORM 0BEETLE 0COCKROACH 0POTTED_PLANT 0WOOD
0FEATHER 0LOTUS 0CORAL 0EMPTY_NEST 0NEST_WITH_EGGS @1FAC0 0ANATOMICAL_HEART 0LUNGS 0PEOPLE_HUGGING
0PREGNANT_MAN 1PERSON 0PERSON_WITH_CROWN @1FAD0 0BLUEBERRIES 0BELL_PEPPER 0OLIVE 0FLATBREAD
0TAMALE 0FONDUE 0TEAPOT 0POURING_LIQUID 0BEANS 0JAR @1FAE0 0MELTING_FACE 0SALUTING_FACE
0FACE_WITH_OPEN_EYES_AND_HAND_OVER_MOUTH 2PEEKING_EYE 2DIAGONAL_MOUTH 0DOTTED_LINE_FACE
0BITING_LIP 0BUBBLES @1FAF0 0HAND_WITH_INDEX_FINGER_AND_THUMB_CROSSED 0RIGHTWARDS_HAND
0LEFTWARDS_HAND 0PALM_DOWN_HAND 1UP_HAND 0INDEX_POINTING_AT_THE_VIEWER 0HEART_HANDS @1FB00
0BLOCK_SEXTANT-1 + 1SEXTANT-12 1SEXTANT-3 1SEXTANT-13 1SEXTANT-23 1SEXTANT-123 1SEXTANT-4
1SEXTANT-14 1SEXTANT-24 1SEXTANT-124 1SEXTANT-34 1SEXTANT-134 1SEXTANT-234 1SEXTANT-1234
1SEXTANT-5 1SEXTANT-15 1SEXTANT-25 1SEXTANT-125 1SEXTANT-35 1SEXTANT-235 1SEXTANT-1235 1SEXTANT-45
1SEXTANT-145 1SEXTANT-245 1SEXTANT-1245 1SEXTANT-345 1SEXTANT-1345 1SEXTANT-2345 1SEXTANT-12345
1SEXTANT-6 1SEXTANT-16 1SEXTANT-26 1SEXTANT-126 1SEXTANT-36 1SEXTANT-136 1SEXTANT-236
1SEXTANT-1236 1SEXTANT-46 1SEXTANT-146 1SEXTANT-1246 1SEXTANT-346 1SEXTANT-1346 1SEXTANT-2346
1SEXTANT-12346 1SEXTANT-56 1SEXTANT-156 1SEXTANT-256 1SEXTANT-1256 1SEXTANT-356 1SEXTANT-1356
1SEXTANT-2356 1SEXTANT-12356 1SEXTANT-456 1SEXTANT-1456 1SEXTANT-2456 1SEXTANT-12456 1SEXTANT-3456
1SEXTANT-13456 1SEXTANT-23456 0LOWER_LEFT_BLOCK_DIAGONAL_LOWER_MIDDLE_LEFT_TO_LOWER_CENTRE 9RIGHT
4UPPER_MIDDLE_LEFT_TO_LOWER_CENTRE 9RIGHT 5LEFT_TO_LOWER_CENTRE
1RIGHT_BLOCK_DIAGONAL_UPPER_MIDDLE_LEFT_TO_UPPER_CENTRE 9RIGHT 4LOWER_MIDDLE_LEFT_TO_UPPER_CENTRE
9RIGHT 5LEFT_TO_UPPER_CENTRE 5MIDDLE_LEFT_TO_UPPER_MIDDLE_RIGHT 5CENTRE_TO_LOWER_MIDDLE_RIGHT
5LEFT_TO_LOWER_MIDDLE_RIGHT 5CENTRE_TO_UPPER_MIDDLE_RIGHT 5LEFT_TO_UPPER_MIDDLE_RIGHT
5CENTRE_TO_UPPER_RIGHT 1LEFT_BLOCK_DIAGONAL_UPPER_CENTRE_TO_UPPER_MIDDLE_RIGHT
5LEFT_TO_UPPER_MIDDLE_RIGHT 5CENTRE_TO_LOWER_MIDDLE_RIGHT 5LEFT_TO_LOWER_MIDDLE_RIGHT
5CENTRE_TO_LOWER_RIGHT 5MIDDLE_LEFT_TO_LOWER_MIDDLE_RIGHT
0UPPER_RIGHT_BLOCK_DIAGONAL_LOWER_MIDDLE_LEFT_TO_LOWER_CENTRE 9RIGHT
4UPPER_MIDDLE_LEFT_TO_LOWER_CENTRE 9RIGHT 5LEFT_TO_LOWER_CENTRE
1LEFT_BLOCK_DIAGONAL_UPPER_MIDDLE_LEFT_TO_UPPER_CENTRE 9RIGHT 4LOWER_MIDDLE_LEFT_TO_UPPER_CENTRE
9RIGHT 5LEFT_TO_UPPER_CENTRE 5MIDDLE_LEFT_TO_UPPER_MIDDLE_RIGHT 5CENTRE_TO_LOWER_MIDDLE_RIGHT
5LEFT_TO_LOWER_MIDDLE_RIGHT 5CENTRE_TO_UPPER_MIDDLE_RIGHT 5LEFT_TO_UPPER_MIDDLE_RIGHT
5CENTRE_TO_UPPER_RIGHT 1RIGHT_BLOCK_DIAGONAL_UPPER_CENTRE_TO_UPPER_MIDDLE_RIGHT
5LEFT_TO_UPPER_MIDDLE_RIGHT 5CENTRE_TO_LOWER_MIDDLE_RIGHT 5LEFT_TO_LOWER_MIDDLE_RIGHT
5CENTRE_TO_LOWER_RIGHT 5MIDDLE_LEFT_TO_LOWER_MIDDLE_RIGHT
1AND_RIGHT_AND_LOWER_TRIANGULAR_THREE_QUARTERS_BLOCK
0LEFT_AND_LOWER_AND_RIGHT_TRIANGULAR_THREE_QUARTERS_BLOCK
0UPPER_AND_LEFT_AND_LOWER_TRIANGULAR_THREE_QUARTERS_BLOCK
0LEFT_AND_UPPER_AND_RIGHT_TRIANGULAR_THREE_QUARTERS_BLOCK 1TRIANGULAR_ONE_QUARTER_BLOCK
0UPPER_TRIANGULAR_ONE_QUARTER_BLOCK 0RIGHT_TRIANGULAR_ONE_QUARTER_BLOCK
0LOWER_TRIANGULAR_ONE_QUARTER_BLOCK 0VERTICAL_ONE_EIGHTH_BLOCK-2 + + + + +
0HORIZONTAL_ONE_EIGHTH_BLOCK-2 + + + + + 0LEFT_AND_LOWER_ONE_EIGHTH_BLOCK 2UPPER_ONE_EIGHTH_BLOCK
0RIGHT_AND_UPPER_ONE_EIGHTH_BLOCK 2LOWER_ONE_EIGHTH_BLOCK 0UPPER_AND_LOWER_ONE_EIGHTH_BLOCK
0HORIZONTAL_ONE_EIGHTH_BLOCK-1358 0UPPER_ONE_QUARTER_BLOCK 1THREE_EIGHTHS_BLOCK
1FIVE_EIGHTHS_BLOCK 1THREE_QUARTERS_BLOCK 1SEVEN_EIGHTHS_BLOCK 0RIGHT_ONE_QUARTER_BLOCK
1THREE_EIGHTHS_BLOCK 1FIVE_EIGHTHS_BLOCK 1THREE_QUARTERS_BLOCK 1SEVEN_EIGHTHS_BLOCK
0LEFT_HALF_MEDIUM_SHADE 0RIGHT_HALF_MEDIUM_SHADE 0UPPER_HALF_MEDIUM_SHADE 0LOWER_HALF_MEDIUM_SHADE
0INVERSE_MEDIUM_SHADE 0UPPER_HALF_BLOCK_AND_LOWER_HALF_INVERSE_MEDIUM_SHADE
2INVERSE_MEDIUM_SHADE_AND_LOWER_HALF_BLOCK @1FB94
0LEFT_HALF_INVERSE_MEDIUM_SHADE_AND_RIGHT_HALF_BLOCK 0CHECKER_BOARD_FILL
0INVERSE_CHECKER_BOARD_FILL 0HEAVY_HORIZONTAL_FILL 0UPPER_LEFT_TO_LOWER_RIGHT_FILL
1RIGHT_TO_LOWER_LEFT_FILL 1AND_LOWER_TRIANGULAR_HALF_BLOCK 0LEFT_AND_RIGHT_TRIANGULAR_HALF_BLOCK
0UPPER_LEFT_TRIANGULAR_MEDIUM_SHADE 1RIGHT_TRIANGULAR_MEDIUM_SHADE
0LOWER_RIGHT_TRIANGULAR_MEDIUM_SHADE 1LEFT_TRIANGULAR_MEDIUM_SHADE
0BOX_DRAWINGS_LIGHT_DIAGONAL_UPPER_CENTRE_TO_MIDDLE_LEFT 8RIGHT 4MIDDLE_LEFT_TO_LOWER_CENTRE
5RIGHT_TO_LOWER_CENTRE 4UPPER_CENTRE_TO_MIDDLE_LEFT_TO_LOWER_CENTRE 8RIGHT_TO_LOWER_CENTRE
4MIDDLE_LEFT_TO_LOWER_CENTRE_TO_MIDDLE_RIGHT 7UPPER_CENTRE_TO_MIDDLE_RIGHT
4UPPER_CENTRE_TO_MIDDLE_LEFT_AND_MIDDLE_RIGHT_TO_LOWER_CENTRE
8RIGHT_AND_MIDDLE_LEFT_TO_LOWER_CENTRE 9TO_LOWER_CENTRE_TO_MIDDLE_LEFT
8LEFT_TO_LOWER_CENTRE_TO_MIDDLE_RIGHT 4MIDDLE_LEFT_TO_UPPER_CENTRE_TO_MIDDLE_RIGHT_TO_LOWER_CENTRE
5RIGHT_TO_UPPER_CENTRE_TO_MIDDLE_LEFT_TO_LOWER_CENTRE 4DIAMOND 3HORIZONTAL_WITH_VERTICAL_STROKE
0ARROWHEAD-SHAPED_POINTER 0INVERSE_CHECK_MARK 0LEFT_HALF_RUNNING_MAN 0RIGHT_HALF_RUNNING_MAN
0INVERSE_DOWNWARDS_ARROW_WITH_TIP_LEFTWARDS 0LEFTWARDS_ARROW_AND_UPPER_AND_LOWER_ONE_EIGHTH_BLOCK
0RIGHTWARDS_ARROW_AND_UPPER_AND_LOWER_ONE_EIGHTH_BLOCK 0DOWNWARDS_ARROW_AND_RIGHT_ONE_EIGHTH_BLOCK
0UPWARDS_ARROW_AND_RIGHT_ONE_EIGHTH_BLOCK 0LEFT_HALF_FOLDER 0RIGHT_HALF_FOLDER 0VOIDED_GREEK_CROSS
0RIGHT_OPEN_SQUARED_DOT 0NEGATIVE_DIAGONAL_CROSS 2MIDDLE_RIGHT_TO_LOWER_CENTRE 2DIAMOND
0WHITE_HEAVY_SALTIRE_WITH_ROUNDED_CORNERS 0LEFT_THIRD_WHITE_RIGHT_POINTING_INDEX
0MIDDLE_THIRD_WHITE_RIGHT_POINTING_INDEX 0RIGHT_THIRD_WHITE_RIGHT_POINTING_INDEX
0NEGATIVE_SQUARED_QUESTION_MARK 0STICK_FIGURE 2WITH_ARMS_RAISED 2LEANING_LEFT 3RIGHT 2WITH_DRESS
0WHITE_UP-POINTING_CHEVRON @1FBF0 0SEGMENTED_DIGIT_ZERO 2ONE 2TWO 2THREE 2FOUR 2FIVE 2SIX 2SEVEN
2EIGHT 2NINE @E0001 0LANGUAGE_TAG @E0020 0TAG_SPACE 1EXCLAMATION_MARK 1QUOTATION_MARK 1NUMBER_SIGN
1DOLLAR_SIGN 1PERCENT_SIGN 1AMPERSAND 1APOSTROPHE 1LEFT_PARENTHESIS 1RIGHT_PARENTHESIS 1ASTERISK
1PLUS_SIGN 1COMMA 1HYPHEN-MINUS 1FULL_STOP 1SOLIDUS 1DIGIT_ZERO 2ONE 2TWO 2THREE 2FOUR 2FIVE 2SIX
2SEVEN 2EIGHT 2NINE 1COLON 1SEMICOLON 1LESS-THAN_SIGN 1EQUALS_SIGN 1GREATER-THAN_SIGN
1QUESTION_MARK 1COMMERCIAL_AT 1LATIN_CAPITAL_LETTER_A 4B 4C 4D 4E 4F 4G 4H 4I 4J 4K 4L 4M 4N 4O 4P
4Q 4R 4S 4T 4U 4V 4W 4X 4Y 4Z 1LEFT_SQUARE_BRACKET 1REVERSE_SOLIDUS 1RIGHT_SQUARE_BRACKET
1CIRCUMFLEX_ACCENT 1LOW_LINE 1GRAVE_ACCENT 1LATIN_SMALL_LETTER_A 4B 4C 4D 4E 4F 4G 4H 4I 4J 4K 4L
4M 4N 4O 4P 4Q 4R 4S 4T 4U 4V 4W 4X 4Y 4Z 1LEFT_CURLY_BRACKET 1VERTICAL_LINE 1RIGHT_CURLY_BRACKET
1TILDE 0CANCEL_TAG @E0100 0VARIATION_SELECTOR-17 + + + + + + + + + + + + + + + + + + + + + + + + +
+ + + + + + + + + + + + + + + + + + + + + + + + + + + + + + + + + + + + + + + + + + + + + + + + +
+ + + + + + + + 1SELECTOR-100 + + + + + + + + + + + + + + + + + + + + + + + + + + + + + + + + + +
+ + + + + + + + + + + + + + + + + + + + + + + + + + + + + + + + + + + + + + + + + + + + + + + + +
+ + + + + + + + + + + + + + + + + + + + + + + + + + + + + + + + + + + + + + + + + + + + + + + + +
+ + + + + + + + + + + + + + + + + + + + + + + +"

end Rubric.Text.CharacterName
