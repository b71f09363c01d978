/-!
# Character names: ancient

The names of the scripts, most of them old, from U+10000 to U+1BFFF, in the notation of the table of
character names.
-/

namespace Rubric.Text.CharacterName

/-- The names of the scripts, most of them old, from U+10000 to U+1BFFF. -/
def ancient : String := "
@10000 0LINEAR_B_SYLLABLE_B008_A 3B038_E 3B028_I 3B061_O 3B010_U 3B001_DA 3B045_DE 3B007_DI
3B014_DO 3B051_DU 3B057_JA 3B046_JE @1000D 3B036_JO 3B065_JU 3B077_KA 3B044_KE 3B067_KI 3B070_KO
3B081_KU 3B080_MA 3B013_ME 3B073_MI 3B015_MO 3B023_MU 3B006_NA 3B024_NE 3B030_NI 3B052_NO 3B055_NU
3B003_PA 3B072_PE 3B039_PI 3B011_PO 3B050_PU 3B016_QA 3B078_QE 3B021_QI 3B032_QO @10028 3B060_RA
3B027_RE 3B053_RI 3B002_RO 3B026_RU 3B031_SA 3B009_SE 3B041_SI 3B012_SO 3B058_SU 3B059_TA 3B004_TE
3B037_TI 3B005_TO 3B069_TU 3B054_WA 3B075_WE 3B040_WI 3B042_WO @1003C 3B017_ZA 3B074_ZE @1003F
3B020_ZO 3B025_A2 3B043_A3 3B085_AU 3B071_DWE 3B090_DWO 3B048_NWA 3B029_PU2 3B062_PTE 3B076_RA2
3B033_RA3 3B068_RO2 3B066_TA2 3B087_TWE 3B091_TWO @10050 2SYMBOL_B018 + 3B022 3B034 3B047 3B049
3B056 3B063 + 3B079 3B082 + 3B086 3B089 @10080 2IDEOGRAM_B100_MAN 3B102_WOMAN 3B104_DEER
3B105_EQUID 3B105F_MARE 3B105M_STALLION 3B106F_EWE 3B106M_RAM 3B107F_SHE-GOAT 3B107M_HE-GOAT
3B108F_SOW 3B108M_BOAR 3B109F_COW 3B109M_BULL 3B120_WHEAT 3B121_BARLEY 3B122_OLIVE 3B123_SPICE
3B125_CYPERUS 2MONOGRAM_B127_KAPO 3B128_KANAKO 2IDEOGRAM_B130_OIL 3B131_WINE 3B132
2MONOGRAM_B133_AREPA 3B135_MERI 2IDEOGRAM_B140_BRONZE 3B141_GOLD 3B142 3B145_WOOL 3B146 3B150
3B151_HORN 3B152 + + 2MONOGRAM_B156_TURO2 2IDEOGRAM_B157 + 3B159_CLOTH 3B160 + 3B162_GARMENT
3B163_ARMOUR 3B164 + + + + + + + + 3B173_MONTH 3B174 3B176_TREE 3B177 + + + + + + + + 3B189 +
3B191_HELMET 3B220_FOOTSTOOL 3B225_BATHTUB 3B230_SPEAR 3B231_ARROW 3B232 3B233_SWORD 3B234 3B236
3B240_WHEELED_CHARIOT 3B241_CHARIOT 3B242_CHARIOT_FRAME 3B243_WHEEL 3B245 + 2MONOGRAM_B247_DIPTE
2IDEOGRAM_B248 + 3B251 + + 3B254_DART 3B255 + + + + 3VESSEL_B155 4B200 + + + + + + + + + + + + + +
+ + + + + 4B221 + 4B226 + + + 4B250 4B305 @10100 0AEGEAN_WORD_SEPARATOR_LINE 3DOT 1CHECK_MARK
@10107 1NUMBER_ONE 2TWO 2THREE 2FOUR 2FIVE 2SIX 2SEVEN 2EIGHT 2NINE 2TEN 2TWENTY 2THIRTY 2FORTY
2FIFTY 2SIXTY 2SEVENTY 2EIGHTY 2NINETY 2ONE_HUNDRED 2TWO_HUNDRED 2THREE_HUNDRED 2FOUR_HUNDRED
2FIVE_HUNDRED 2SIX_HUNDRED 2SEVEN_HUNDRED 2EIGHT_HUNDRED 2NINE_HUNDRED 2ONE_THOUSAND 2TWO_THOUSAND
2THREE_THOUSAND 2FOUR_THOUSAND 2FIVE_THOUSAND 2SIX_THOUSAND 2SEVEN_THOUSAND 2EIGHT_THOUSAND
2NINE_THOUSAND 2TEN_THOUSAND 2TWENTY_THOUSAND 2THIRTY_THOUSAND 2FORTY_THOUSAND 2FIFTY_THOUSAND
2SIXTY_THOUSAND 2SEVENTY_THOUSAND 2EIGHTY_THOUSAND 2NINETY_THOUSAND @10137 1WEIGHT_BASE_UNIT
2FIRST_SUBUNIT 2SECOND_SUBUNIT 2THIRD_SUBUNIT 2FOURTH_SUBUNIT 1DRY_MEASURE_FIRST_SUBUNIT
1LIQUID_MEASURE_FIRST_SUBUNIT 1MEASURE_SECOND_SUBUNIT 2THIRD_SUBUNIT
0GREEK_ACROPHONIC_ATTIC_ONE_QUARTER 4HALF 4DRACHMA 3FIVE 3FIFTY 3FIVE_HUNDRED 4THOUSAND
3FIFTY_THOUSAND 3FIVE_TALENTS 3TEN_TALENTS 3FIFTY_TALENTS 3ONE_HUNDRED_TALENTS
3FIVE_HUNDRED_TALENTS 3ONE_THOUSAND_TALENTS 3FIVE_THOUSAND_TALENTS 4STATERS 3TEN_STATERS
3FIFTY_STATERS 3ONE_HUNDRED_STATERS 3FIVE_HUNDRED_STATERS 3ONE_THOUSAND_STATERS
3TEN_THOUSAND_STATERS 3FIFTY_THOUSAND_STATERS 3TEN_MNAS 2HERAEUM_ONE_PLETHRON 2THESPIAN_ONE
2HERMIONIAN_ONE 2EPIDAUREAN_TWO 2THESPIAN_TWO 2CYRENAIC_TWO_DRACHMAS 2EPIDAUREAN_TWO_DRACHMAS
2TROEZENIAN_FIVE 3TEN 4ALTERNATE_FORM 2HERMIONIAN_TEN 2MESSENIAN_TEN 2THESPIAN_TEN 3THIRTY
2TROEZENIAN_FIFTY 4ALTERNATE_FORM 2HERMIONIAN_FIFTY 2THESPIAN_FIFTY 3ONE_HUNDRED 3THREE_HUNDRED
2EPIDAUREAN_FIVE_HUNDRED 2TROEZENIAN_FIVE_HUNDRED 2THESPIAN_FIVE_HUNDRED 2CARYSTIAN_FIVE_HUNDRED
2NAXIAN_FIVE_HUNDRED 2THESPIAN_ONE_THOUSAND 3FIVE_THOUSAND 2DELPHIC_FIVE_MNAS 2STRATIAN_FIFTY_MNAS
1ONE_HALF_SIGN 4ALTERNATE_FORM 1TWO_THIRDS_SIGN 1THREE_QUARTERS_SIGN 1YEAR_SIGN 1TALENT_SIGN
1DRACHMA_SIGN 1OBOL_SIGN 1TWO_OBOLS_SIGN 1THREE_OBOLS_SIGN 1FOUR_OBOLS_SIGN 1FIVE_OBOLS_SIGN
1METRETES_SIGN 1KYATHOS_BASE_SIGN 1LITRA_SIGN 1OUNKIA_SIGN 1XESTES_SIGN 1ARTABE_SIGN 1AROURA_SIGN
1GRAMMA_SIGN 1TRYBLION_BASE_SIGN 1ZERO_SIGN 1ONE_QUARTER_SIGN 1SINUSOID_SIGN 1INDICTION_SIGN
0NOMISMA_SIGN @10190 0ROMAN_SEXTANS_SIGN 1UNCIA_SIGN 1SEMUNCIA_SIGN 1SEXTULA_SIGN
1DIMIDIA_SEXTULA_SIGN 1SILIQUA_SIGN 1DENARIUS_SIGN 1QUINARIUS_SIGN 1SESTERTIUS_SIGN
1DUPONDIUS_SIGN 1AS_SIGN 1CENTURIAL_SIGN 0ASCIA_SYMBOL @101A0 0GREEK_SYMBOL_TAU_RHO @101D0
0PHAISTOS_DISC_SIGN_PEDESTRIAN 3PLUMED_HEAD 3TATTOOED_HEAD 3CAPTIVE 3CHILD 3WOMAN 3HELMET
3GAUNTLET 3TIARA 3ARROW 3BOW 3SHIELD 3CLUB 3MANACLES 3MATTOCK 3SAW 3LID 3BOOMERANG
3CARPENTRY_PLANE 3DOLIUM 3COMB 3SLING 3COLUMN 3BEEHIVE 3SHIP 3HORN 3HIDE 3BULLS_LEG 3CAT 3RAM
3EAGLE 3DOVE 3TUNNY 3BEE 3PLANE_TREE 3VINE 3PAPYRUS 3ROSETTE 3LILY 3OX_BACK 3FLUTE 3GRATER
3STRAINER 3SMALL_AXE 3WAVY_BAND 3COMBINING_OBLIQUE_STROKE @10280 0LYCIAN_LETTER_A 2E 2B 2BH 2G 2D
2I 2W 2Z 2TH 2J 2K 2Q 2L 2M 2N 2MM 2NN 2U 2P 2KK 2R 2S 2T 2TT 2AN 2EN 2H 2X @102A0
0CARIAN_LETTER_A 2P2 2D 2L 2UUU 2R 2LD 2A2 2Q 2B 2M 2O 2D2 2T 2SH 2SH2 2S 2C-18 2U 2NN 2X 2N 2TT2
2P 2SS 2I 2E 2UUUU 2K 2K2 2ND 2UU 2G 2G2 2ST 2ST2 2NG 2II 2C-39 2TT 2UUU2 2RR 2MB 2MB2 + + 2LD2
2E2 2UUU3 @102E0 0COPTIC_EPACT_THOUSANDS_MARK 2DIGIT_ONE 3TWO 3THREE 3FOUR 3FIVE 3SIX 3SEVEN
3EIGHT 3NINE 2NUMBER_TEN 3TWENTY 3THIRTY 3FORTY 3FIFTY 3SIXTY 3SEVENTY 3EIGHTY 3NINETY
3ONE_HUNDRED 3TWO_HUNDRED 3THREE_HUNDRED 3FOUR_HUNDRED 3FIVE_HUNDRED 3SIX_HUNDRED 3SEVEN_HUNDRED
3EIGHT_HUNDRED 3NINE_HUNDRED @10300 0OLD_ITALIC_LETTER_A 3BE 3KE 3DE 3E 3VE 3ZE 3HE 3THE 3I 3KA
3EL 3EM 3EN 3ESH 3O 3PE 3SHE 3KU 3ER 3ES 3TE 3U 3EKS 3PHE 3KHE 3EF 3ERS 3CHE 3II 3UU 3ESS
2NUMERAL_ONE 3FIVE 3TEN 3FIFTY @1032D 2LETTER_YE 3NORTHERN_TSE 3SOUTHERN_TSE 0GOTHIC_LETTER_AHSA
2BAIRKAN 2GIBA 2DAGS 2AIHVUS 2QAIRTHRA 2IUJA 2HAGL 2THIUTH 2EIS 2KUSMA 2LAGUS 2MANNA 2NAUTHS 2JER
2URUS 2PAIRTHRA 2NINETY 2RAIDA 2SAUIL 2TEIWS 2WINJA 2FAIHU 2IGGWS 2HWAIR 2OTHAL 2NINE_HUNDRED
@10350 0OLD_PERMIC_LETTER_AN 3BUR 3GAI 3DOI 3E 3ZHOI 3DZHOI 3ZATA 3DZITA 3I 3KOKE 3LEI 3MENOE
3NENOE 3VOOI 3PEEI 3REI 3SII 3TAI 3U 3CHERY 3SHOOI 3SHCHOOI 3YRY 3YERU 3O 3OO 3EF 3HA 3TSIU 3VER
3YER 3YERI 3YAT 3IE 3YU 3YA 3IA 0COMBINING_OLD_PERMIC_LETTER_AN 4DOI 4ZATA 4NENOE 4SII @10380
0UGARITIC_LETTER_ALPA 2BETA 2GAMLA 2KHA 2DELTA 2HO 2WO 2ZETA 2HOTA 2TET 2YOD 2KAF 2SHIN 2LAMDA
2MEM 2DHAL 2NUN 2ZU 2SAMKA 2AIN 2PU 2SADE 2QOPA 2RASHA 2THANNA 2GHAIN 2TO 2I 2U 2SSU @1039F
1WORD_DIVIDER 0OLD_PERSIAN_SIGN_A 3I 3U 3KA 3KU 3GA 3GU 3XA 3CA 3JA 3JI 3TA 3TU 3DA 3DI 3DU 3THA
3PA 3BA 3FA 3NA 3NU 3MA 3MI 3MU 3YA 3VA 3VI 3RA 3RU 3LA 3SA 3ZA 3SHA 3SSA 3HA @103C8 3AURAMAZDAA
3AURAMAZDAA-2 3AURAMAZDAAHA 3XSHAAYATHIYA 3DAHYAAUSH 3DAHYAAUSH-2 3BAGA 3BUUMISH 2WORD_DIVIDER
2NUMBER_ONE 3TWO 3TEN 3TWENTY 3HUNDRED @10400 0DESERET_CAPITAL_LETTER_LONG_I 4E 4A 4AH 4O 4OO
3SHORT_I 4E 4A 4AH 4O 4OO 3AY 3OW 3WU 3YEE 3H 3PEE 3BEE 3TEE 3DEE 3CHEE 3JEE 3KAY 3GAY 3EF 3VEE
3ETH 3THEE 3ES 3ZEE 3ESH 3ZHEE 3ER 3EL 3EM 3EN 3ENG 3OI 3EW 1SMALL_LETTER_LONG_I 4E 4A 4AH 4O 4OO
3SHORT_I 4E 4A 4AH 4O 4OO 3AY 3OW 3WU 3YEE 3H 3PEE 3BEE 3TEE 3DEE 3CHEE 3JEE 3KAY 3GAY 3EF 3VEE
3ETH 3THEE 3ES 3ZEE 3ESH 3ZHEE 3ER 3EL 3EM 3EN 3ENG 3OI 3EW 0SHAVIAN_LETTER_PEEP 2TOT 2KICK 2FEE
2THIGH 2SO 2SURE 2CHURCH 2YEA 2HUNG 2BIB 2DEAD 2GAG 2VOW 2THEY 2ZOO 2MEASURE 2JUDGE 2WOE 2HA-HA
2LOLL 2MIME 2IF 2EGG 2ASH 2ADO 2ON 2WOOL 2OUT 2AH 2ROAR 2NUN 2EAT 2AGE 2ICE 2UP 2OAK 2OOZE 2OIL
2AWE 2ARE 2OR 2AIR 2ERR 2ARRAY 2EAR 2IAN 2YEW 0OSMANYA_LETTER_ALEF 2BA 2TA 2JA 2XA 2KHA 2DEEL 2RA
2SA 2SHIIN 2DHA 2CAYN 2GA 2FA 2QAAF 2KAAF 2LAAN 2MIIN 2NUUN 2WAW 2HA 2YA 2A 2E 2I 2O 2U 2AA 2EE
2OO @104A0 1DIGIT_ZERO 2ONE 2TWO 2THREE 2FOUR 2FIVE 2SIX 2SEVEN 2EIGHT 2NINE @104B0
0OSAGE_CAPITAL_LETTER_A 3AI 3AIN 3AH 3BRA 3CHA 3EHCHA 3E 3EIN 3HA 3HYA 3I 3KA 3EHKA 3KYA 3LA 3MA
3NA 3O 3OIN 3PA 3EHPA 3SA 3SHA 3TA 3EHTA 3TSA 3EHTSA 3TSHA 3DHA 3U 3WA 3KHA 3GHA 3ZA 3ZHA @104D8
1SMALL_LETTER_A 3AI 3AIN 3AH 3BRA 3CHA 3EHCHA 3E 3EIN 3HA 3HYA 3I 3KA 3EHKA 3KYA 3LA 3MA 3NA 3O
3OIN 3PA 3EHPA 3SA 3SHA 3TA 3EHTA 3TSA 3EHTSA 3TSHA 3DHA 3U 3WA 3KHA 3GHA 3ZA 3ZHA @10500
0ELBASAN_LETTER_A 2BE 2CE 2CHE 2DE 2NDE 2DHE 2EI 2E 2FE 2GE 2GJE 2HE 2I 2JE 2KE 2LE 2LLE 2ME 2NE
2NA 2NJE 2O 2PE 2QE 2RE 2RRE 2SE 2SHE 2TE 2THE 2U 2VE 2XE 2Y 2ZE 2ZHE 2GHE 2GHAMMA 2KHE @10530
0CAUCASIAN_ALBANIAN_LETTER_ALT 3BET 3GIM 3DAT 3EB 3ZARL 3EYN 3ZHIL 3TAS 3CHA 3YOWD 3ZHA 3IRB 3SHA
3LAN 3INYA 3XEYN 3DYAN 3CAR 3JHOX 3KAR 3LYIT 3HEYT 3QAY 3AOR 3CHOY 3CHI 3CYAY 3MAQ 3QAR 3NOWC
3DZYAY 3SHAK 3JAYN 3ON 3TYAY 3FAM 3DZAY 3CHAT 3PEN 3GHEYS 3RAT 3SEYK 3VEYZ 3TIWR 3SHOY 3IWN 3CYAW
3CAYN 3YAYD 3PIWR 3KIW @1056F 2CITATION_MARK 0VITHKUQI_CAPITAL_LETTER_A 3BBE 3BE 3CE 3CHE 3DE 3DHE
3EI 3E 3FE 3GA @1057C 3HA 3HHA 3I 3IJE 3JE 3KA 3LA 3LLA 3ME 3NE 3NJE 3O 3PE 3QA 3RE @1058C 3SE
3SHE 3TE 3THE 3U 3VE 3XE @10594 3Y 3ZE @10597 1SMALL_LETTER_A 3BBE 3BE 3CE 3CHE 3DE 3DHE 3EI 3E
3FE 3GA @105A3 3HA 3HHA 3I 3IJE 3JE 3KA 3LA 3LLA 3ME 3NE 3NJE 3O 3PE 3QA 3RE @105B3 3SE 3SHE 3TE
3THE 3U 3VE 3XE @105BB 3Y 3ZE @10600 0LINEAR_A_SIGN_AB001 + + + + + + + + + + 3AB013 3AB016 +
3AB020 + 3AB021F 3AB021M 3AB022 3AB022F 3AB022M 3AB023 3AB023M 3AB024 3AB026 + + 3A028B 3AB029 + +
3AB034 3AB037 + + + + 3AB044 + + + + + + + 3AB053 + + + + + + + + 3AB065 + + 3AB069 + 3AB073 +
3AB076 + + + + + + 3AB085 + + 3A100-102 3AB118 3AB120 3A120B 3AB122 + 3AB131A 3AB131B 3A131C
3AB164 3AB171 3AB180 3AB188 3AB191 3A301 + + + + + + + 3A309A 3A309B 3A309C 3A310 + + 3A313A
3A313B 3A313C 3A314 + + + + + + + + + + + + + + + + + + + + + + + + + + + + + + + + + + + + + + +
+ + + + + + + + + + + + + + + + + + 3A400-VAS 3A401-VAS 3A402-VAS 3A403-VAS 3A404-VAS 3A405-VAS
3A406-VAS 3A407-VAS 3A408-VAS 3A409-VAS 3A410-VAS 3A411-VAS 3A412-VAS 3A413-VAS 3A414-VAS
3A415-VAS 3A416-VAS 3A417-VAS 3A418-VAS 3A501 + + + + + 3A508 + + + + + 3A515 + 3A520 + 3A523 + +
+ + + + + + + 3A534 + + + + + + + + 3A545 3A547 + + + + + + + + + + 3A559 3A563 + + + 3A568 + + +
+ + + + + + + + + + + + + + + + + + 3A591 + 3A594 + + 3A598 3A600 + + + + 3A606 3A608 + + + + + +
+ + + + + + + + + + 3A626 + + + 3A634 3A637 + 3A640 3A642 + + + + 3A648 + 3A651 + + + + + + + + +
+ + + + @10740 3A701_A 3A702_B 3A703_D 3A704_E 3A705_F 3A706_H 3A707_J 3A708_K 3A709_L 3A709-2_L2
3A709-3_L3 3A709-4_L4 3A709-6_L6 3A710_W 3A711_X 3A712_Y 3A713_OMEGA 3A714_ABB 3A715_BB 3A717_DD
3A726_EYYY 3A732_JE @10760 3A800 + + + + + + + @10780 0MODIFIER_LETTER_SMALL_CAPITAL_AA
2SUPERSCRIPT_TRIANGULAR_COLON 3HALF_TRIANGULAR_COLON 2SMALL_AE 3CAPITAL_B 3B_WITH_HOOK @10787
3DZ_DIGRAPH 5WITH_RETROFLEX_HOOK 6CURL 3DEZH_DIGRAPH 3D_WITH_TAIL 5HOOK 6AND_TAIL 3REVERSED_E
3CLOSED_REVERSED_OPEN_E 3FENG_DIGRAPH 3RAMS_HORN 3CAPITAL_G 3G_WITH_HOOK 3CAPITAL_G_WITH_HOOK
3H_WITH_STROKE 3CAPITAL_H 3HENG_WITH_HOOK 3DOTLESS_J_WITH_STROKE_AND_HOOK 3LS_DIGRAPH 3LZ_DIGRAPH
3L_WITH_BELT 3CAPITAL_L_WITH_BELT 3L_WITH_RETROFLEX_HOOK_AND_BELT 3LEZH 4WITH_RETROFLEX_HOOK
3TURNED_Y 5WITH_BELT 3O_WITH_STROKE 3CAPITAL_OE 3CLOSED_OMEGA 3Q 3TURNED_R_WITH_LONG_LEG
8AND_RETROFLEX_HOOK 3R_WITH_TAIL 5FISHHOOK 3CAPITAL_R 3TC_DIGRAPH_WITH_CURL 3TS_DIGRAPH
5WITH_RETROFLEX_HOOK 3TESH_DIGRAPH 3T_WITH_RETROFLEX_HOOK 3V_WITH_RIGHT_HOOK @107B2 3CAPITAL_Y
2GLOTTAL_STOP_WITH_STROKE 2REVERSED_GLOTTAL_STOP_WITH_STROKE 2BILABIAL_CLICK 2DENTAL_CLICK
2LATERAL_CLICK 2ALVEOLAR_CLICK 2RETROFLEX_CLICK_WITH_RETROFLEX_HOOK 2SMALL_S_WITH_CURL @10800
0CYPRIOT_SYLLABLE_A 2E 2I 2O 2U 2JA @10808 2JO @1080A 2KA 2KE 2KI 2KO 2KU 2LA 2LE 2LI 2LO 2LU 2MA
2ME 2MI 2MO 2MU 2NA 2NE 2NI 2NO 2NU 2PA 2PE 2PI 2PO 2PU 2RA 2RE 2RI 2RO 2RU 2SA 2SE 2SI 2SO 2SU
2TA 2TE 2TI 2TO 2TU 2WA 2WE 2WI 2WO @10837 2XA 2XE @1083C 2ZA @1083F 2ZO
0IMPERIAL_ARAMAIC_LETTER_ALEPH 3BETH 3GIMEL 3DALETH 3HE 3WAW 3ZAYIN 3HETH 3TETH 3YODH 3KAPH
3LAMEDH 3MEM 3NUN 3SAMEKH 3AYIN 3PE 3SADHE 3QOPH 3RESH 3SHIN 3TAW @10857 2SECTION_SIGN 2NUMBER_ONE
3TWO 3THREE 3TEN 3TWENTY 3ONE_HUNDRED 4THOUSAND 3TEN_THOUSAND 0PALMYRENE_LETTER_ALEPH 2BETH 2GIMEL
2DALETH 2HE 2WAW 2ZAYIN 2HETH 2TETH 2YODH 2KAPH 2LAMEDH 2MEM 2FINAL_NUN 2NUN 2SAMEKH 2AYIN 2PE
2SADHE 2QOPH 2RESH 2SHIN 2TAW 1LEFT-POINTING_FLEURON 1RIGHT-POINTING_FLEURON 1NUMBER_ONE 2TWO
2THREE 2FOUR 2FIVE 2TEN 2TWENTY 0NABATAEAN_LETTER_FINAL_ALEPH 2ALEPH 2FINAL_BETH 2BETH 2GIMEL
2DALETH 2FINAL_HE 2HE 2WAW 2ZAYIN 2HETH 2TETH 2FINAL_YODH 2YODH 2FINAL_KAPH 2KAPH 2FINAL_LAMEDH
2LAMEDH 2FINAL_MEM 2MEM 2FINAL_NUN 2NUN 2SAMEKH 2AYIN 2PE 2SADHE 2QOPH 2RESH 2FINAL_SHIN 2SHIN
2TAW @108A7 1NUMBER_ONE 2TWO 2THREE 2FOUR 1CRUCIFORM_NUMBER_FOUR 1NUMBER_FIVE 2TEN 2TWENTY
2ONE_HUNDRED @108E0 0HATRAN_LETTER_ALEPH 2BETH 2GIMEL 2DALETH-RESH 2HE 2WAW 2ZAYN 2HETH 2TETH
2YODH 2KAPH 2LAMEDH 2MEM 2NUN 2SAMEKH 2AYN 2PE 2SADHE 2QOPH @108F4 2SHIN 2TAW @108FB 1NUMBER_ONE
2FIVE 2TEN 2TWENTY 2ONE_HUNDRED 0PHOENICIAN_LETTER_ALF 2BET 2GAML 2DELT 2HE 2WAU 2ZAI 2HET 2TET
2YOD 2KAF 2LAMD 2MEM 2NUN 2SEMK 2AIN 2PE 2SADE 2QOF 2ROSH 2SHIN 2TAU 1NUMBER_ONE 2TEN 2TWENTY
2ONE_HUNDRED 2TWO 2THREE @1091F 1WORD_SEPARATOR 0LYDIAN_LETTER_A 2B 2G 2D 2E 2V 2I 2Y 2K 2L 2M 2N
2O 2R 2SS 2T 2U 2F 2Q 2S 2TT 2AN 2EN 2LY 2NN 2C @1093F 1TRIANGULAR_MARK @10980
0MEROITIC_HIEROGLYPHIC_LETTER_A 3E 3I 3O 3YA 3WA 3BA 3BA-2 3PA 3MA 3NA 3NA-2 3NE 3NE-2 3RA 3RA-2
3LA 3KHA 3HHA 3SA 3SA-2 3SE 3KA 3QA 3TA 3TA-2 3TE 3TE-2 3TO 3DA 2SYMBOL_VIDJ 3VIDJ-2
1CURSIVE_LETTER_A 3E 3I 3O 3YA 3WA 3BA 3PA 3MA 3NA 3NE 3RA 3LA 3KHA 3HHA 3SA 3ARCHAIC_SA 3SE 3KA
3QA 3TA 3TE 3TO 3DA @109BC 2FRACTION_ELEVEN_TWELFTHS 3ONE_HALF 2LOGOGRAM_RMT 3IMN 2NUMBER_ONE 3TWO
3THREE 3FOUR 3FIVE 3SIX 3SEVEN 3EIGHT 3NINE 3TEN 3TWENTY 3THIRTY 3FORTY 3FIFTY 3SIXTY 3SEVENTY
@109D2 3ONE_HUNDRED 3TWO_HUNDRED 3THREE_HUNDRED 3FOUR_HUNDRED 3FIVE_HUNDRED 3SIX_HUNDRED
3SEVEN_HUNDRED 3EIGHT_HUNDRED 3NINE_HUNDRED 3ONE_THOUSAND 3TWO_THOUSAND 3THREE_THOUSAND
3FOUR_THOUSAND 3FIVE_THOUSAND 3SIX_THOUSAND 3SEVEN_THOUSAND 3EIGHT_THOUSAND 3NINE_THOUSAND
3TEN_THOUSAND 3TWENTY_THOUSAND 3THIRTY_THOUSAND 3FORTY_THOUSAND 3FIFTY_THOUSAND 3SIXTY_THOUSAND
3SEVENTY_THOUSAND 3EIGHTY_THOUSAND 3NINETY_THOUSAND 3ONE_HUNDRED_THOUSAND 3TWO_HUNDRED_THOUSAND
3THREE_HUNDRED_THOUSAND 3FOUR_HUNDRED_THOUSAND 3FIVE_HUNDRED_THOUSAND 3SIX_HUNDRED_THOUSAND
3SEVEN_HUNDRED_THOUSAND 3EIGHT_HUNDRED_THOUSAND 3NINE_HUNDRED_THOUSAND 2FRACTION_ONE_TWELFTH
3TWO_TWELFTHS 3THREE_TWELFTHS 3FOUR_TWELFTHS 3FIVE_TWELFTHS 3SIX_TWELFTHS 3SEVEN_TWELFTHS
3EIGHT_TWELFTHS 3NINE_TWELFTHS 3TEN_TWELFTHS 0KHAROSHTHI_LETTER_A 1VOWEL_SIGN_I 3U 3VOCALIC_R
@10A05 3E 3O @10A0C 2LENGTH_MARK 1SIGN_DOUBLE_RING_BELOW 2ANUSVARA 2VISARGA 1LETTER_KA 2KHA 2GA
2GHA @10A15 2CA 2CHA 2JA @10A19 2NYA 2TTA 2TTHA 2DDA 2DDHA 2NNA 2TA 2THA 2DA 2DHA 2NA 2PA 2PHA 2BA
2BHA 2MA 2YA 2RA 2LA 2VA 2SHA 2SSA 2SA 2ZA 2HA 2KKA 2TTTHA 2TTTA 2VHA @10A38 1SIGN_BAR_ABOVE
2CAUDA 2DOT_BELOW @10A3F 1VIRAMA 1DIGIT_ONE 2TWO 2THREE 2FOUR 1NUMBER_TEN 2TWENTY 2ONE_HUNDRED
3THOUSAND 1FRACTION_ONE_HALF @10A50 1PUNCTUATION_DOT 2SMALL_CIRCLE 2CIRCLE 2CRESCENT_BAR 2MANGALAM
2LOTUS 2DANDA 2DOUBLE_DANDA 2LINES @10A60 0OLD_SOUTH_ARABIAN_LETTER_HE 4LAMEDH 4HETH 4MEM 4QOPH
4WAW 4SHIN 4RESH 4BETH 4TAW 4SAT 4KAPH 4NUN 4KHETH 4SADHE 4SAMEKH 4FE 4ALEF 4AYN 4DHADHE 4GIMEL
4DALETH 4GHAYN 4TETH 4ZAYN 4DHALETH 4YODH 4THAW 4THETH 3NUMBER_ONE 4FIFTY 3NUMERIC_INDICATOR
1NORTH_ARABIAN_LETTER_HEH 4LAM 4HAH 4MEEM 4QAF 4WAW 4ES-2 4REH 4BEH 4TEH 4ES-1 4KAF 4NOON 4KHAH
4SAD 4ES-3 4FEH 4ALEF 4AIN 4DAD 4GEEM 4DAL 4GHAIN 4TAH 4ZAIN 4THAL 4YEH 4THEH 4ZAH 3NUMBER_ONE
4TEN 4TWENTY @10AC0 0MANICHAEAN_LETTER_ALEPH 2BETH 2BHETH 2GIMEL 2GHIMEL 2DALETH 2HE 2WAW 1SIGN_UD
1LETTER_ZAYIN 2ZHAYIN 2JAYIN 2JHAYIN 2HETH 2TETH 2YODH 2KAPH 2XAPH 2KHAPH 2LAMEDH 2DHAMEDH
2THAMEDH 2MEM 2NUN 2SAMEKH 2AYIN 2AAYIN 2PE 2FE 2SADHE 2QOPH 2XOPH 2QHOPH 2RESH 2SHIN 2SSHIN 2TAW
1ABBREVIATION_MARK_ABOVE 3BELOW @10AEB 1NUMBER_ONE 2FIVE 2TEN 2TWENTY 2ONE_HUNDRED
1PUNCTUATION_STAR 2FLEURON 2DOUBLE_DOT_WITHIN_DOT 2DOT_WITHIN_DOT 2DOT 2TWO_DOTS 2LINE_FILLER
@10B00 0AVESTAN_LETTER_A 2AA 2AO 2AAO 2AN 2AAN 2AE 2AEE 2E 2EE 2O 2OO 2I 2II 2U 2UU 2KE 2XE 2XYE
2XVE 2GE 2GGE 2GHE 2CE 2JE 2TE 2THE 2DE 2DHE 2TTE 2PE 2FE 2BE 2BHE 2NGE 2NGYE 2NGVE 2NE 2NYE 2NNE
2ME 2HME 2YYE 2YE 2VE 2RE 2LE 2SE 2ZE 2SHE 2ZHE 2SHYE 2SSHE 2HE @10B39 1ABBREVIATION_MARK
0TINY_TWO_DOTS_OVER_ONE_DOT_PUNCTUATION 0SMALL_TWO_DOTS_OVER_ONE_DOT_PUNCTUATION
0LARGE_TWO_DOTS_OVER_ONE_DOT_PUNCTUATION 1ONE_DOT_OVER_TWO_DOTS_PUNCTUATION
1TWO_RINGS_OVER_ONE_RING_PUNCTUATION 1ONE_RING_OVER_TWO_RINGS_PUNCTUATION
0INSCRIPTIONAL_PARTHIAN_LETTER_ALEPH 3BETH 3GIMEL 3DALETH 3HE 3WAW 3ZAYIN 3HETH 3TETH 3YODH 3KAPH
3LAMEDH 3MEM 3NUN 3SAMEKH 3AYIN 3PE 3SADHE 3QOPH 3RESH 3SHIN 3TAW @10B58 2NUMBER_ONE 3TWO 3THREE
3FOUR 3TEN 3TWENTY 3ONE_HUNDRED 4THOUSAND 1PAHLAVI_LETTER_ALEPH 3BETH 3GIMEL 3DALETH 3HE
3WAW-AYIN-RESH 3ZAYIN 3HETH 3TETH 3YODH 3KAPH 3LAMEDH 3MEM-QOPH 3NUN 3SAMEKH 3PE 3SADHE 3SHIN 3TAW
@10B78 2NUMBER_ONE 3TWO 3THREE 3FOUR 3TEN 3TWENTY 3ONE_HUNDRED 4THOUSAND
0PSALTER_PAHLAVI_LETTER_ALEPH 3BETH 3GIMEL 3DALETH 3HE 3WAW-AYIN-RESH 3ZAYIN 3HETH 3YODH 3KAPH
3LAMEDH 3MEM-QOPH 3NUN 3SAMEKH 3PE 3SADHE 3SHIN 3TAW @10B99 2SECTION_MARK 2TURNED_SECTION_MARK
2FOUR_DOTS_WITH_CROSS 5DOT @10BA9 2NUMBER_ONE 3TWO 3THREE 3FOUR 3TEN 3TWENTY 3ONE_HUNDRED @10C00
0OLD_TURKIC_LETTER_ORKHON_A 3YENISEI_A 4AE 3ORKHON_I 3YENISEI_I 4E 3ORKHON_O 4OE 3YENISEI_OE
3ORKHON_AB 3YENISEI_AB 3ORKHON_AEB 3YENISEI_AEB 3ORKHON_AG 3YENISEI_AG 3ORKHON_AEG 3YENISEI_AEG
3ORKHON_AD 3YENISEI_AD 3ORKHON_AED 4EZ 3YENISEI_EZ 3ORKHON_AY 3YENISEI_AY 3ORKHON_AEY 3YENISEI_AEY
3ORKHON_AEK 3YENISEI_AEK 3ORKHON_OEK 3YENISEI_OEK 3ORKHON_AL 3YENISEI_AL 3ORKHON_AEL 4ELT 4EM 4AN
4AEN 3YENISEI_AEN 3ORKHON_ENT 3YENISEI_ENT 3ORKHON_ENC 3YENISEI_ENC 3ORKHON_ENY 3YENISEI_ENY 4ANG
3ORKHON_ENG 3YENISEI_AENG 3ORKHON_EP 4OP 4IC 4EC 3YENISEI_EC 3ORKHON_AQ 3YENISEI_AQ 3ORKHON_IQ
3YENISEI_IQ 3ORKHON_OQ 3YENISEI_OQ 3ORKHON_AR 3YENISEI_AR 3ORKHON_AER 4AS 4AES 4ASH 3YENISEI_ASH
3ORKHON_ESH 3YENISEI_ESH 3ORKHON_AT 3YENISEI_AT 3ORKHON_AET 3YENISEI_AET 3ORKHON_OT 4BASH @10C80
1HUNGARIAN_CAPITAL_LETTER_A 4AA 4EB 4AMB 4EC 4ENC 4ECS 4ED 4AND 4E 4CLOSE_E 4EE 4EF 4EG 4EGY 4EH
4I 4II 4EJ 4EK 4AK 4UNK 4EL 4ELY 4EM 4EN 4ENY 4O 4OO 4NIKOLSBURG_OE 4RUDIMENTA_OE 4OEE 4EP 4EMP
4ER 4SHORT_ER 4ES 4ESZ 4ET 4ENT 4ETY 4ECH 4U 4UU 4NIKOLSBURG_UE 4RUDIMENTA_UE 4EV 4EZ 4EZS
4ENT-SHAPED_SIGN 4US @10CC0 2SMALL_LETTER_A 4AA 4EB 4AMB 4EC 4ENC 4ECS 4ED 4AND 4E 4CLOSE_E 4EE
4EF 4EG 4EGY 4EH 4I 4II 4EJ 4EK 4AK 4UNK 4EL 4ELY 4EM 4EN 4ENY 4O 4OO 4NIKOLSBURG_OE 4RUDIMENTA_OE
4OEE 4EP 4EMP 4ER 4SHORT_ER 4ES 4ESZ 4ET 4ENT 4ETY 4ECH 4U 4UU 4NIKOLSBURG_UE 4RUDIMENTA_UE 4EV
4EZ 4EZS 4ENT-SHAPED_SIGN 4US @10CFA 2NUMBER_ONE 3FIVE 3TEN 3FIFTY 3ONE_HUNDRED 4THOUSAND
0HANIFI_ROHINGYA_LETTER_A 3BA 3PA 3TA 3TTA 3JA 3CA 3HA 3KHA 3FA 3DA 3DDA 3RA 3RRA 3ZA 3SA 3SHA 3KA
3GA 3LA 3MA 3NA 3WA 3KINNA_WA 3YA 3KINNA_YA 3NGA 3NYA 3VA 2VOWEL_A 3I 3U 3E 3O 2MARK_SAKIN
3NA_KHONNA 2SIGN_HARBAHAY 3TAHALA 3TANA 3TASSI @10D30 2DIGIT_ZERO 3ONE 3TWO 3THREE 3FOUR 3FIVE
3SIX 3SEVEN 3EIGHT 3NINE @10E60 0RUMI_DIGIT_ONE 2TWO 2THREE 2FOUR 2FIVE 2SIX 2SEVEN 2EIGHT 2NINE
1NUMBER_TEN 2TWENTY 2THIRTY 2FORTY 2FIFTY 2SIXTY 2SEVENTY 2EIGHTY 2NINETY 2ONE_HUNDRED
2TWO_HUNDRED 2THREE_HUNDRED 2FOUR_HUNDRED 2FIVE_HUNDRED 2SIX_HUNDRED 2SEVEN_HUNDRED 2EIGHT_HUNDRED
2NINE_HUNDRED 1FRACTION_ONE_HALF 3QUARTER 3THIRD 2TWO_THIRDS @10E80 0YEZIDI_LETTER_ELIF 2BE 2PE
2PHE 2THE 2SE 2CIM 2CHIM 2CHHIM 2HHA 2XA 2DAL 2ZAL 2RA 2RHA 2ZA 2JA 2SIN 2SHIN 2SAD 2DAD 2TA 2ZE
2EYN 2XHEYN 2FA 2VA 3ALTERNATE_FORM 2QAF 2KAF 2KHAF 2GAF 2LAM 2MIM 2NUN 2UM 2WAW 2OW 2EW 2HAY 2YOT
2ET @10EAB 1COMBINING_HAMZA_MARK 2MADDA_MARK 1HYPHENATION_MARK @10EB0 1LETTER_LAM_WITH_DOT_ABOVE
2YOT_WITH_CIRCUMFLEX_ABOVE @10F00 0OLD_SOGDIAN_LETTER_ALEPH 3FINAL_ALEPH 3BETH 3FINAL_BETH 3GIMEL
3HE 3FINAL_HE 3WAW 3ZAYIN 3HETH 3YODH 3KAPH 3LAMEDH 3MEM 3NUN 3FINAL_NUN 5WITH_VERTICAL_TAIL
3SAMEKH 3AYIN 3ALTERNATE_AYIN 3PE 3SADHE 3FINAL_SADHE 5WITH_VERTICAL_TAIL 3RESH-AYIN-DALETH 3SHIN
3TAW 3FINAL_TAW 5WITH_VERTICAL_TAIL 2NUMBER_ONE 3TWO 3THREE 3FOUR 3FIVE 3TEN 3TWENTY 3THIRTY
3ONE_HUNDRED 2FRACTION_ONE_HALF 2LIGATURE_AYIN-DALETH @10F30 0SOGDIAN_LETTER_ALEPH 2BETH 2GIMEL
2HE 2WAW 2ZAYIN 2HETH 2YODH 2KAPH 2LAMEDH 2MEM 2NUN 2SAMEKH 2AYIN 2PE 2SADHE 2RESH-AYIN 2SHIN 2TAW
2FETH 2LESH 1INDEPENDENT_SHIN 1COMBINING_DOT_BELOW 2TWO_DOTS_BELOW 2DOT_ABOVE 2TWO_DOTS_ABOVE
2CURVE_ABOVE 3BELOW 2HOOK_ABOVE 3BELOW 2LONG_HOOK_BELOW 2RESH_BELOW 2STROKE_BELOW 1NUMBER_ONE 2TEN
2TWENTY 2ONE_HUNDRED 1PUNCTUATION_TWO_VERTICAL_BARS 5WITH_DOTS 2CIRCLE_WITH_DOT
2TWO_CIRCLES_WITH_DOTS 2HALF_CIRCLE_WITH_DOT @10F70 0OLD_UYGHUR_LETTER_ALEPH 3BETH 3GIMEL-HETH
3WAW 3ZAYIN 3FINAL_HETH 3YODH 3KAPH 3LAMEDH 3MEM 3NUN 3SAMEKH 3PE 3SADHE 3RESH 3SHIN 3TAW 3LESH
2COMBINING_DOT_ABOVE 4BELOW 3TWO_DOTS_ABOVE 5BELOW 2PUNCTUATION_BAR 3TWO_BARS 4DOTS 3FOUR_DOTS
@10FB0 0CHORASMIAN_LETTER_ALEPH 2SMALL_ALEPH 2BETH 2GIMEL 2DALETH 2HE 2WAW 2CURLED_WAW 2ZAYIN
2HETH 2YODH 2KAPH 2LAMEDH 2MEM 2NUN 2SAMEKH 2AYIN 2PE 2RESH 2SHIN 2TAW 1NUMBER_ONE 2TWO 2THREE
2FOUR 2TEN 2TWENTY 2ONE_HUNDRED @10FE0 0ELYMAIC_LETTER_ALEPH 2BETH 2GIMEL 2DALETH 2HE 2WAW 2ZAYIN
2HETH 2TETH 2YODH 2KAPH 2LAMEDH 2MEM 2NUN 2SAMEKH 2AYIN 2PE 2SADHE 2QOPH 2RESH 2SHIN 2TAW
1LIGATURE_ZAYIN-YODH @11000 0BRAHMI_SIGN_CANDRABINDU 2ANUSVARA 2VISARGA 2JIHVAMULIYA 2UPADHMANIYA
1LETTER_A 2AA 2I 2II 2U 2UU 2VOCALIC_R 3RR 3L 3LL 2E 2AI 2O 2AU 2KA 2KHA 2GA 2GHA 2NGA 2CA 2CHA
2JA 2JHA 2NYA 2TTA 2TTHA 2DDA 2DDHA 2NNA 2TA 2THA 2DA 2DHA 2NA 2PA 2PHA 2BA 2BHA 2MA 2YA 2RA 2LA
2VA 2SHA 2SSA 2SA 2HA 2LLA 2OLD_TAMIL_LLLA 4RRA 4NNNA 1VOWEL_SIGN_AA 3BHATTIPROLU_AA 3I 3II 3U 3UU
3VOCALIC_R 4RR 4L 4LL 3E 3AI 3O 3AU 1VIRAMA 1DANDA 1DOUBLE_DANDA 1PUNCTUATION_DOT 2DOUBLE_DOT
2LINE 2CRESCENT_BAR 2LOTUS @11052 1NUMBER_ONE 2TWO 2THREE 2FOUR 2FIVE 2SIX 2SEVEN 2EIGHT 2NINE
2TEN 2TWENTY 2THIRTY 2FORTY 2FIFTY 2SIXTY 2SEVENTY 2EIGHTY 2NINETY 2ONE_HUNDRED 3THOUSAND
1DIGIT_ZERO 2ONE 2TWO 2THREE 2FOUR 2FIVE 2SIX 2SEVEN 2EIGHT 2NINE 1SIGN_OLD_TAMIL_VIRAMA
1LETTER_OLD_TAMIL_SHORT_E 5O 1VOWEL_SIGN_OLD_TAMIL_SHORT_E 6O 1LETTER_OLD_TAMIL_LLA @1107F
1NUMBER_JOINER 0KAITHI_SIGN_CANDRABINDU 2ANUSVARA 2VISARGA 1LETTER_A 2AA 2I 2II 2U 2UU 2E 2AI 2O
2AU 2KA 2KHA 2GA 2GHA 2NGA 2CA 2CHA 2JA 2JHA 2NYA 2TTA 2TTHA 2DDA 2DDDHA 2DDHA 2RHA 2NNA 2TA 2THA
2DA 2DHA 2NA 2PA 2PHA 2BA 2BHA 2MA 2YA 2RA 2LA 2VA 2SHA 2SSA 2SA 2HA 1VOWEL_SIGN_AA 3I 3II 3U 3UU
3E 3AI 3O 3AU 1SIGN_VIRAMA 2NUKTA 1ABBREVIATION_SIGN 1ENUMERATION_SIGN 1NUMBER_SIGN 1SECTION_MARK
1DOUBLE_SECTION_MARK 1DANDA 1DOUBLE_DANDA 1VOWEL_SIGN_VOCALIC_R @110CD 1NUMBER_SIGN_ABOVE @110D0
0SORA_SOMPENG_LETTER_SAH 3TAH 3BAH 3CAH 3DAH 3GAH 3MAH 3NGAH 3LAH 3NAH 3VAH 3PAH 3YAH 3RAH 3HAH
3KAH 3JAH 3NYAH 3AH 3EEH 3IH 3UH 3OH 3EH 3MAE @110F0 2DIGIT_ZERO 3ONE 3TWO 3THREE 3FOUR 3FIVE 3SIX
3SEVEN 3EIGHT 3NINE @11100 0CHAKMA_SIGN_CANDRABINDU 2ANUSVARA 2VISARGA 1LETTER_AA 2I 2U 2E 2KAA
2KHAA 2GAA 2GHAA 2NGAA 2CAA 2CHAA 2JAA 2JHAA 2NYAA 2TTAA 2TTHAA 2DDAA 2DDHAA 2NNAA 2TAA 2THAA 2DAA
2DHAA 2NAA 2PAA 2PHAA 2BAA 2BHAA 2MAA 2YYAA 2YAA 2RAA 2LAA 2WAA 2SAA 2HAA 1VOWEL_SIGN_A 3I 3II 3U
3UU 3E 3AI 3O 3AU 3OI 1O_MARK 1AU_MARK 1VIRAMA 1MAAYYAA @11136 1DIGIT_ZERO 2ONE 2TWO 2THREE 2FOUR
2FIVE 2SIX 2SEVEN 2EIGHT 2NINE 1SECTION_MARK 1DANDA 1DOUBLE_DANDA 1QUESTION_MARK 1LETTER_LHAA
1VOWEL_SIGN_AA 3EI 1LETTER_VAA @11150 0MAHAJANI_LETTER_A 2I 2U 2E 2O 2KA 2KHA 2GA 2GHA 2CA 2CHA
2JA 2JHA 2NYA 2TTA 2TTHA 2DDA 2DDHA 2NNA 2TA 2THA 2DA 2DHA 2NA 2PA 2PHA 2BA 2BHA 2MA 2RA 2LA 2VA
2SA 2HA 2RRA 1SIGN_NUKTA 1ABBREVIATION_SIGN 1SECTION_MARK 1LIGATURE_SHRI @11180
0SHARADA_SIGN_CANDRABINDU 2ANUSVARA 2VISARGA 1LETTER_A 2AA 2I 2II 2U 2UU 2VOCALIC_R 3RR 3L 3LL 2E
2AI 2O 2AU 2KA 2KHA 2GA 2GHA 2NGA 2CA 2CHA 2JA 2JHA 2NYA 2TTA 2TTHA 2DDA 2DDHA 2NNA 2TA 2THA 2DA
2DHA 2NA 2PA 2PHA 2BA 2BHA 2MA 2YA 2RA 2LA 2LLA 2VA 2SHA 2SSA 2SA 2HA 1VOWEL_SIGN_AA 3I 3II 3U 3UU
3VOCALIC_R 4RR 4L 4LL 3E 3AI 3O 3AU 1SIGN_VIRAMA 2AVAGRAHA 2JIHVAMULIYA 2UPADHMANIYA 1OM 1DANDA
1DOUBLE_DANDA 1ABBREVIATION_SIGN 1SEPARATOR 1SANDHI_MARK 1SIGN_NUKTA 1VOWEL_MODIFIER_MARK
1EXTRA_SHORT_VOWEL_MARK 1SUTRA_MARK 1VOWEL_SIGN_PRISHTHAMATRA_E 1SIGN_INVERTED_CANDRABINDU
1DIGIT_ZERO 2ONE 2TWO 2THREE 2FOUR 2FIVE 2SIX 2SEVEN 2EIGHT 2NINE 1EKAM 1SIGN_SIDDHAM 1HEADSTROKE
1CONTINUATION_SIGN 1SECTION_MARK-1 + @111E1 0SINHALA_ARCHAIC_DIGIT_ONE 3TWO 3THREE 3FOUR 3FIVE
3SIX 3SEVEN 3EIGHT 3NINE 2NUMBER_TEN 3TWENTY 3THIRTY 3FORTY 3FIFTY 3SIXTY 3SEVENTY 3EIGHTY 3NINETY
3ONE_HUNDRED 4THOUSAND @11200 0KHOJKI_LETTER_A 2AA 2I 2U 2E 2AI 2O 2AU 2KA 2KHA 2GA 2GGA 2GHA 2NGA
2CA 2CHA 2JA 2JJA @11213 2NYA 2TTA 2TTHA 2DDA 2DDHA 2NNA 2TA 2THA 2DA 2DDDA 2DHA 2NA 2PA 2PHA 2BA
2BBA 2BHA 2MA 2YA 2RA 2LA 2VA 2SA 2HA 2LLA 1VOWEL_SIGN_AA 3I 3II 3U 3E 3AI 3O 3AU 1SIGN_ANUSVARA
2VIRAMA 2NUKTA 2SHADDA 1DANDA 1DOUBLE_DANDA 1WORD_SEPARATOR 1SECTION_MARK 1DOUBLE_SECTION_MARK
1ABBREVIATION_SIGN 1SIGN_SUKUN @11280 0MULTANI_LETTER_A 2I 2U 2E 2KA 2KHA 2GA @11288 2GHA @1128A
2CA 2CHA 2JA 2JJA @1128F 2NYA 2TTA 2TTHA 2DDA 2DDDA 2DDHA 2NNA 2TA 2THA 2DA 2DHA 2NA 2PA 2PHA 2BA
@1129F 2BHA 2MA 2YA 2RA 2LA 2VA 2SA 2HA 2RRA 2RHA 1SECTION_MARK @112B0 0KHUDAWADI_LETTER_A 2AA 2I
2II 2U 2UU 2E 2AI 2O 2AU 2KA 2KHA 2GA 2GGA 2GHA 2NGA 2CA 2CHA 2JA 2JJA 2JHA 2NYA 2TTA 2TTHA 2DDA
2DDDA 2RRA 2DDHA 2NNA 2TA 2THA 2DA 2DHA 2NA 2PA 2PHA 2BA 2BBA 2BHA 2MA 2YA 2RA 2LA 2VA 2SHA 2SA
2HA 1SIGN_ANUSVARA 1VOWEL_SIGN_AA 3I 3II 3U 3UU 3E 3AI 3O 3AU 1SIGN_NUKTA 2VIRAMA @112F0
1DIGIT_ZERO 2ONE 2TWO 2THREE 2FOUR 2FIVE 2SIX 2SEVEN 2EIGHT 2NINE @11300
0GRANTHA_SIGN_COMBINING_ANUSVARA_ABOVE 2CANDRABINDU 2ANUSVARA 2VISARGA @11305 1LETTER_A 2AA 2I 2II
2U 2UU 2VOCALIC_R 3L @1130F 2EE 2AI @11313 2OO 2AU 2KA 2KHA 2GA 2GHA 2NGA 2CA 2CHA 2JA 2JHA 2NYA
2TTA 2TTHA 2DDA 2DDHA 2NNA 2TA 2THA 2DA 2DHA 2NA @1132A 2PA 2PHA 2BA 2BHA 2MA 2YA 2RA @11332 2LA
2LLA @11335 2VA 2SHA 2SSA 2SA 2HA @1133B 0COMBINING_BINDU_BELOW 0GRANTHA_SIGN_NUKTA 2AVAGRAHA
1VOWEL_SIGN_AA 3I 3II 3U 3UU 3VOCALIC_R 4RR @11347 3EE 3AI @1134B 3OO 3AU 1SIGN_VIRAMA @11350 1OM
@11357 1AU_LENGTH_MARK @1135D 1SIGN_PLUTA 1LETTER_VEDIC_ANUSVARA 3DOUBLE_ANUSVARA 2VOCALIC_RR 3LL
1VOWEL_SIGN_VOCALIC_L 4LL @11366 0COMBINING_GRANTHA_DIGIT_ZERO 3ONE 3TWO 3THREE 3FOUR 3FIVE 3SIX
@11370 2LETTER_A 3KA 3NA 3VI 3PA @11400 0NEWA_LETTER_A 2AA 2I 2II 2U 2UU 2VOCALIC_R 3RR 3L 3LL 2E
2AI 2O 2AU 2KA 2KHA 2GA 2GHA 2NGA 2NGHA 2CA 2CHA 2JA 2JHA 2NYA 2NYHA 2TTA 2TTHA 2DDA 2DDHA 2NNA
2TA 2THA 2DA 2DHA 2NA 2NHA 2PA 2PHA 2BA 2BHA 2MA 2MHA 2YA 2RA 2RHA 2LA 2LHA 2WA 2SHA 2SSA 2SA 2HA
1VOWEL_SIGN_AA 3I 3II 3U 3UU 3VOCALIC_R 4RR 4L 4LL 3E 3AI 3O 3AU 1SIGN_VIRAMA 2CANDRABINDU
2ANUSVARA 2VISARGA 2NUKTA 2AVAGRAHA 2FINAL_ANUSVARA 1OM 1SIDDHI 1DANDA 1DOUBLE_DANDA 1COMMA
1GAP_FILLER 1ABBREVIATION_SIGN 1DIGIT_ZERO 2ONE 2TWO 2THREE 2FOUR 2FIVE 2SIX 2SEVEN 2EIGHT 2NINE
1DOUBLE_COMMA 1PLACEHOLDER_MARK @1145D 1INSERTION_SIGN 1SANDHI_MARK 1LETTER_VEDIC_ANUSVARA
1SIGN_JIHVAMULIYA 2UPADHMANIYA @11480 0TIRHUTA_ANJI 1LETTER_A 2AA 2I 2II 2U 2UU 2VOCALIC_R 3RR 3L
3LL 2E 2AI 2O 2AU 2KA 2KHA 2GA 2GHA 2NGA 2CA 2CHA 2JA 2JHA 2NYA 2TTA 2TTHA 2DDA 2DDHA 2NNA 2TA
2THA 2DA 2DHA 2NA 2PA 2PHA 2BA 2BHA 2MA 2YA 2RA 2LA 2VA 2SHA 2SSA 2SA 2HA 1VOWEL_SIGN_AA 3I 3II 3U
3UU 3VOCALIC_R 4RR 4L 4LL 3E 3SHORT_E 3AI 3O 3SHORT_O 3AU 1SIGN_CANDRABINDU 2ANUSVARA 2VISARGA
2VIRAMA 2NUKTA 2AVAGRAHA 1GVANG 1ABBREVIATION_SIGN 1OM @114D0 1DIGIT_ZERO 2ONE 2TWO 2THREE 2FOUR
2FIVE 2SIX 2SEVEN 2EIGHT 2NINE @11580 0SIDDHAM_LETTER_A 2AA 2I 2II 2U 2UU 2VOCALIC_R 3RR 3L 3LL 2E
2AI 2O 2AU 2KA 2KHA 2GA 2GHA 2NGA 2CA 2CHA 2JA 2JHA 2NYA 2TTA 2TTHA 2DDA 2DDHA 2NNA 2TA 2THA 2DA
2DHA 2NA 2PA 2PHA 2BA 2BHA 2MA 2YA 2RA 2LA 2VA 2SHA 2SSA 2SA 2HA 1VOWEL_SIGN_AA 3I 3II 3U 3UU
3VOCALIC_R 4RR @115B8 3E 3AI 3O 3AU 1SIGN_CANDRABINDU 2ANUSVARA 2VISARGA 2VIRAMA 2NUKTA 2SIDDHAM
1DANDA 1DOUBLE_DANDA 1SEPARATOR_DOT 2BAR 1REPETITION_MARK-1 + + 1END_OF_TEXT_MARK
1SECTION_MARK_WITH_TRIDENT_AND_U-SHAPED_ORNAMENTS 6DOTTED_CRESCENTS 4RAYS_AND_DOTTED_CRESCENTS
7DOUBLE_CRESCENTS 7TRIPLE_CRESCENTS 3DOUBLE_RING 5WITH_RAYS 3WITH_DOUBLE_CRESCENTS
4TRIPLE_CRESCENTS 4QUADRUPLE_CRESCENTS 4SEPTUPLE_CRESCENTS 4CIRCLES_AND_RAYS 6TWO_ENCLOSURES
6FOUR_ENCLOSURES 1LETTER_THREE-CIRCLE_ALTERNATE_I 2TWO-CIRCLE_ALTERNATE_I 4II 2ALTERNATE_U
1VOWEL_SIGN_ALTERNATE_U 4UU @11600 0MODI_LETTER_A 2AA 2I 2II 2U 2UU 2VOCALIC_R 3RR 3L 3LL 2E 2AI
2O 2AU 2KA 2KHA 2GA 2GHA 2NGA 2CA 2CHA 2JA 2JHA 2NYA 2TTA 2TTHA 2DDA 2DDHA 2NNA 2TA 2THA 2DA 2DHA
2NA 2PA 2PHA 2BA 2BHA 2MA 2YA 2RA 2LA 2VA 2SHA 2SSA 2SA 2HA 2LLA 1VOWEL_SIGN_AA 3I 3II 3U 3UU
3VOCALIC_R 4RR 4L 4LL 3E 3AI 3O 3AU 1SIGN_ANUSVARA 2VISARGA 2VIRAMA 2ARDHACANDRA 1DANDA
1DOUBLE_DANDA 1ABBREVIATION_SIGN 1SIGN_HUVA @11650 1DIGIT_ZERO 2ONE 2TWO 2THREE 2FOUR 2FIVE 2SIX
2SEVEN 2EIGHT 2NINE @11660 0MONGOLIAN_BIRGA_WITH_ORNAMENT 1ROTATED_BIRGA
1DOUBLE_BIRGA_WITH_ORNAMENT 1TRIPLE_BIRGA_WITH_ORNAMENT 1BIRGA_WITH_DOUBLE_ORNAMENT
1ROTATED_BIRGA_WITH_ORNAMENT 4DOUBLE_ORNAMENT 1INVERTED_BIRGA 3WITH_DOUBLE_ORNAMENT 1SWIRL_BIRGA
3WITH_ORNAMENT 4DOUBLE_ORNAMENT 1TURNED_SWIRL_BIRGA_WITH_DOUBLE_ORNAMENT @11680 0TAKRI_LETTER_A
2AA 2I 2II 2U 2UU 2E 2AI 2O 2AU 2KA 2KHA 2GA 2GHA 2NGA 2CA 2CHA 2JA 2JHA 2NYA 2TTA 2TTHA 2DDA
2DDHA 2NNA 2TA 2THA 2DA 2DHA 2NA 2PA 2PHA 2BA 2BHA 2MA 2YA 2RA 2LA 2VA 2SHA 2SA 2HA 2RRA
1SIGN_ANUSVARA 2VISARGA 1VOWEL_SIGN_AA 3I 3II 3U 3UU 3E 3AI 3O 3AU 1SIGN_VIRAMA 2NUKTA
1LETTER_ARCHAIC_KHA 1ABBREVIATION_SIGN @116C0 1DIGIT_ZERO 2ONE 2TWO 2THREE 2FOUR 2FIVE 2SIX 2SEVEN
2EIGHT 2NINE @11700 0AHOM_LETTER_KA 2KHA 2NGA 2NA 2TA 2ALTERNATE_TA 2PA 2PHA 2BA 2MA 2JA 2CHA 2THA
2RA 2LA 2SA 2NYA 2HA 2A 2DA 2DHA 2GA 2ALTERNATE_GA 2GHA 2BHA 2JHA 2ALTERNATE_BA @1171D
1CONSONANT_SIGN_MEDIAL_LA 4RA 4LIGATING_RA 1VOWEL_SIGN_A 3AA 3I 3II 3U 3UU 3E 3AW 3O 3AI 3AM
1SIGN_KILLER @11730 1DIGIT_ZERO 2ONE 2TWO 2THREE 2FOUR 2FIVE 2SIX 2SEVEN 2EIGHT 2NINE 1NUMBER_TEN
2TWENTY 1SIGN_SMALL_SECTION 2SECTION 2RULAI 1SYMBOL_VI 1LETTER_CA 2TTA 2TTHA 2DDA 2DDHA 2NNA 2LLA
@11800 0DOGRA_LETTER_A 2AA 2I 2II 2U 2UU 2E 2AI 2O 2AU 2KA 2KHA 2GA 2GHA 2NGA 2CA 2CHA 2JA 2JHA
2NYA 2TTA 2TTHA 2DDA 2DDHA 2NNA 2TA 2THA 2DA 2DHA 2NA 2PA 2PHA 2BA 2BHA 2MA 2YA 2RA 2LA 2VA 2SHA
2SSA 2SA 2HA 2RRA 1VOWEL_SIGN_AA 3I 3II 3U 3UU 3VOCALIC_R 4RR 3E 3AI 3O 3AU 1SIGN_ANUSVARA
2VISARGA 2VIRAMA 2NUKTA 1ABBREVIATION_SIGN @118A0 0WARANG_CITI_CAPITAL_LETTER_NGAA 4A 4WI 4YU 4YA
4YO 4II 4UU 4E 4O 4ANG 4GA 4KO 4ENY 4YUJ 4UC 4ENN 4ODD 4TTE 4NUNG 4DA 4AT 4AM 4BU 4PU 4HIYO 4HOLO
4HORR 4HAR 4SSUU 4SII 4VIYO 2SMALL_LETTER_NGAA 4A 4WI 4YU 4YA 4YO 4II 4UU 4E 4O 4ANG 4GA 4KO 4ENY
4YUJ 4UC 4ENN 4ODD 4TTE 4NUNG 4DA 4AT 4AM 4BU 4PU 4HIYO 4HOLO 4HORR 4HAR 4SSUU 4SII 4VIYO
2DIGIT_ZERO 3ONE 3TWO 3THREE 3FOUR 3FIVE 3SIX 3SEVEN 3EIGHT 3NINE 2NUMBER_TEN 3TWENTY 3THIRTY
3FORTY 3FIFTY 3SIXTY 3SEVENTY 3EIGHTY 3NINETY @118FF 2OM 0DIVES_AKURU_LETTER_A 3AA 3I 3II 3U 3UU
3E @11909 3O @1190C 3KA 3KHA 3GA 3GHA 3NGA 3CA 3CHA 3JA @11915 3NYA 3TTA @11918 3DDA 3DDHA 3NNA
3TA 3THA 3DA 3DHA 3NA 3PA 3PHA 3BA 3BHA 3MA 3YA 3YYA 3RA 3LA 3VA 3SHA 3SSA 3SA 3HA 3LLA 3ZA
2VOWEL_SIGN_AA 4I 4II 4U 4UU 4E @11937 4AI 4O @1193B 2SIGN_ANUSVARA 3CANDRABINDU 3HALANTA 2VIRAMA
2PREFIXED_NASAL_SIGN 2MEDIAL_YA 2INITIAL_RA 2MEDIAL_RA 2SIGN_NUKTA 2DOUBLE_DANDA 2GAP_FILLER
2END_OF_TEXT_MARK @11950 2DIGIT_ZERO 3ONE 3TWO 3THREE 3FOUR 3FIVE 3SIX 3SEVEN 3EIGHT 3NINE @119A0
0NANDINAGARI_LETTER_A 2AA 2I 2II 2U 2UU 2VOCALIC_R 3RR @119AA 2E 2AI 2O 2AU 2KA 2KHA 2GA 2GHA 2NGA
2CA 2CHA 2JA 2JHA 2NYA 2TTA 2TTHA 2DDA 2DDHA 2NNA 2TA 2THA 2DA 2DHA 2NA 2PA 2PHA 2BA 2BHA 2MA 2YA
2RA 2LA 2VA 2SHA 2SSA 2SA 2HA 2LLA 2RRA 1VOWEL_SIGN_AA 3I 3II 3U 3UU 3VOCALIC_R 4RR @119DA 3E 3AI
3O 3AU 1SIGN_ANUSVARA 2VISARGA 2VIRAMA 2AVAGRAHA 2SIDDHAM 1HEADSTROKE 1VOWEL_SIGN_PRISHTHAMATRA_E
@11A00 0ZANABAZAR_SQUARE_LETTER_A 2VOWEL_SIGN_I 4UE 4U 4E 4OE 4O 4AI 4AU 4REVERSED_I 3LENGTH_MARK
2LETTER_KA 3KHA 3GA 3GHA 3NGA 3CA 3CHA 3JA 3NYA 3TTA 3TTHA 3DDA 3DDHA 3NNA 3TA 3THA 3DA 3DHA 3NA
3PA 3PHA 3BA 3BHA 3MA 3TSA 3TSHA 3DZA 3DZHA 3ZHA 3ZA 3-A 3YA 3RA 3LA 3VA 3SHA 3SSA 3SA 3HA 3KSSA
2FINAL_CONSONANT_MARK 2SIGN_VIRAMA 3CANDRABINDU 4WITH_ORNAMENT 3CANDRA_WITH_ORNAMENT 3ANUSVARA
3VISARGA 2CLUSTER-INITIAL_LETTER_RA 2CLUSTER-FINAL_LETTER_YA 4RA 4LA 4VA 2INITIAL_HEAD_MARK
2CLOSING_HEAD_MARK 2MARK_TSHEG 3SHAD 3DOUBLE_SHAD 3LONG_TSHEG 2INITIAL_DOUBLE-LINED_HEAD_MARK
2CLOSING_DOUBLE-LINED_HEAD_MARK 2SUBJOINER @11A50 0SOYOMBO_LETTER_A 1VOWEL_SIGN_I 3UE 3U 3E 3O 3OE
3AI 3AU 3VOCALIC_R 4L 2LENGTH_MARK 1LETTER_KA 2KHA 2GA 2GHA 2NGA 2CA 2CHA 2JA 2JHA 2NYA 2TTA 2TTHA
2DDA 2DDHA 2NNA 2TA 2THA 2DA 2DHA 2NA 2PA 2PHA 2BA 2BHA 2MA 2TSA 2TSHA 2DZA 2ZHA 2ZA 2-A 2YA 2RA
2LA 2VA 2SHA 2SSA 2SA 2HA 2KSSA 1SIGN_JIHVAMULIYA 2UPADHMANIYA 1CLUSTER-INITIAL_LETTER_RA 3LA 3SHA
3SA 1FINAL_CONSONANT_SIGN_G 4K 4NG 4D 4N 4B 4M 4R 4L 4SH 4S 4-A 1SIGN_ANUSVARA 2VISARGA
1GEMINATION_MARK 1SUBJOINER 1MARK_TSHEG 2SHAD 2DOUBLE_SHAD 2PLUTA
1HEAD_MARK_WITH_MOON_AND_SUN_AND_TRIPLE_FLAME 8FLAME 6SUN 1TERMINAL_MARK-1 + @11AB0
0CANADIAN_SYLLABICS_NATTILIK_HI 3HII 3HO 3HOO 3HA 3HAA 3SHRI 3SHRII 3SHRO 3SHROO 3SHRA 3SHRAA 2SPE
2SPI 2SPO 2SPA 0PAU_CIN_HAU_LETTER_PA 4KA 4LA 4MA 4DA 4ZA 4VA 4NGA 4HA 4GA 4KHA 4SA 4BA 4CA 4TA
4THA 4NA 4PHA 4RA 4FA 4CHA 4A 4E 4I 4O 4U 4UA 4IA 4FINAL_P 5K 5T 5M 5N 5L 5W 5NG 5Y
3RISING_TONE_LONG 4TONE 3SANDHI_GLOTTAL_STOP 3RISING_TONE_LONG_FINAL 5FINAL
3SANDHI_GLOTTAL_STOP_FINAL 4TONE_LONG 4TONE 5LONG_FINAL 5FINAL 3MID-LEVEL_TONE
3GLOTTAL_STOP_VARIANT 3MID-LEVEL_TONE_LONG_FINAL 5FINAL 3LOW-FALLING_TONE_LONG 4TONE 3GLOTTAL_STOP
3LOW-FALLING_TONE_LONG_FINAL 5FINAL 3GLOTTAL_STOP_FINAL @11C00 0BHAIKSUKI_LETTER_A 2AA 2I 2II 2U
2UU 2VOCALIC_R 3RR 3L @11C0A 2E 2AI 2O 2AU 2KA 2KHA 2GA 2GHA 2NGA 2CA 2CHA 2JA 2JHA 2NYA 2TTA
2TTHA 2DDA 2DDHA 2NNA 2TA 2THA 2DA 2DHA 2NA 2PA 2PHA 2BA 2BHA 2MA 2YA 2RA 2LA 2VA 2SHA 2SSA 2SA
2HA 1VOWEL_SIGN_AA 3I 3II 3U 3UU 3VOCALIC_R 4RR 4L @11C38 3E 3AI 3O 3AU 1SIGN_CANDRABINDU
2ANUSVARA 2VISARGA 2VIRAMA 2AVAGRAHA 1DANDA 1DOUBLE_DANDA 1WORD_SEPARATOR 1GAP_FILLER-1 + @11C50
1DIGIT_ZERO 2ONE 2TWO 2THREE 2FOUR 2FIVE 2SIX 2SEVEN 2EIGHT 2NINE 1NUMBER_ONE 2TWO 2THREE 2FOUR
2FIVE 2SIX 2SEVEN 2EIGHT 2NINE 2TEN 2TWENTY 2THIRTY 2FORTY 2FIFTY 2SIXTY 2SEVENTY 2EIGHTY 2NINETY
1HUNDREDS_UNIT_MARK @11C70 0MARCHEN_HEAD_MARK 1MARK_SHAD 1LETTER_KA 2KHA 2GA 2NGA 2CA 2CHA 2JA
2NYA 2TA 2THA 2DA 2NA 2PA 2PHA 2BA 2MA 2TSA 2TSHA 2DZA 2WA 2ZHA 2ZA 2-A 2YA 2RA 2LA 2SHA 2SA 2HA
2A @11C92 1SUBJOINED_LETTER_KA 3KHA 3GA 3NGA 3CA 3CHA 3JA 3NYA 3TA 3THA 3DA 3NA 3PA 3PHA 3BA 3MA
3TSA 3TSHA 3DZA 3WA 3ZHA 3ZA @11CA9 3YA 3RA 3LA 3SHA 3SA 3HA 3A 1VOWEL_SIGN_AA 3I 3U 3E 3O
1SIGN_ANUSVARA 2CANDRABINDU @11D00 0MASARAM_GONDI_LETTER_A 3AA 3I 3II 3U 3UU 3E @11D08 3AI 3O
@11D0B 3AU 3KA 3KHA 3GA 3GHA 3NGA 3CA 3CHA 3JA 3JHA 3NYA 3TTA 3TTHA 3DDA 3DDHA 3NNA 3TA 3THA 3DA
3DHA 3NA 3PA 3PHA 3BA 3BHA 3MA 3YA 3RA 3LA 3VA 3SHA 3SSA 3SA 3HA 3LLA 3KSSA 3JNYA 3TRA
2VOWEL_SIGN_AA 4I 4II 4U 4UU 4VOCALIC_R @11D3A 4E @11D3C 4AI 4O @11D3F 4AU 2SIGN_ANUSVARA 3VISARGA
3NUKTA 3CANDRA 3HALANTA 2VIRAMA 2REPHA 2RA-KARA @11D50 2DIGIT_ZERO 3ONE 3TWO 3THREE 3FOUR 3FIVE
3SIX 3SEVEN 3EIGHT 3NINE @11D60 0GUNJALA_GONDI_LETTER_A 3AA 3I 3II 3U 3UU @11D67 3EE 3AI @11D6A
3OO 3AU 3YA 3VA 3BA 3BHA 3MA 3KA 3KHA 3TA 3THA 3LA 3GA 3GHA 3DA 3DHA 3NA 3CA 3CHA 3TTA 3TTHA 3LLA
3JA 3JHA 3DDA 3DDHA 3NGA 3PA 3PHA 3HA 3RA 3SA 2VOWEL_SIGN_AA 4I 4II 4U 4UU @11D90 4EE 4AI @11D93
4OO 4AU 2SIGN_ANUSVARA 3VISARGA 2VIRAMA 2OM @11DA0 2DIGIT_ZERO 3ONE 3TWO 3THREE 3FOUR 3FIVE 3SIX
3SEVEN 3EIGHT 3NINE @11EE0 0MAKASAR_LETTER_KA 2GA 2NGA 2PA 2BA 2MA 2TA 2DA 2NA 2CA 2JA 2NYA 2YA
2RA 2LA 2VA 2SA 2A 1ANGKA 1VOWEL_SIGN_I 3U 3E 3O 1PASSIMBANG 1END_OF_SECTION @11FB0
0LISU_LETTER_YHA @11FC0 0TAMIL_FRACTION_ONE_THREE-HUNDRED-AND-TWENTIETH 3ONE-HUNDRED-AND-SIXTIETH
3EIGHTIETH 3SIXTY-FOURTH 3FORTIETH 3THIRTY-SECOND 2THREE_EIGHTIETHS 3SIXTY-FOURTHS 2ONE_TWENTIETH
3SIXTEENTH-1 + 3TENTH 3EIGHTH 2THREE_TWENTIETHS 3SIXTEENTHS 2ONE_FIFTH 3QUARTER 3HALF-1 +
2THREE_QUARTERS 2DOWNSCALING_FACTOR_KIIZH 1SIGN_NEL 2CEVITU 2AAZHAAKKU 2UZHAKKU 2MUUVUZHAKKU
2KURUNI 2PATHAKKU 2MUKKURUNI 2KAACU 2PANAM 2PON 2VARAAKAN 2PAARAM 2KUZHI 2VELI
1WET_CULTIVATION_SIGN 1DRY_CULTIVATION_SIGN 1LAND_SIGN 1SALT_PAN_SIGN 1TRADITIONAL_CREDIT_SIGN
2NUMBER_SIGN 1CURRENT_SIGN 1AND_ODD_SIGN 1SPENT_SIGN 1TOTAL_SIGN 1IN_POSSESSION_SIGN
1STARTING_FROM_SIGN 1SIGN_MUTHALIYA 2VAKAIYARAA @11FFF 1PUNCTUATION_END_OF_TEXT 0CUNEIFORM_SIGN_A
3TIMES_A 4BAD 4GAN2_TENU 4HA 4IGI 4LAGAR_GUNU 4MUSH 4SAG 2A2 2AB 3TIMES_ASH2 4DUN3_GUNU 4GAL
4GAN2_TENU 4HA 4IGI_GUNU 4IMIN 4LAGAB 4SHESH 4U_PLUS_U_PLUS_U 3GUNU 2AB2 3TIMES_BALAG 4GAN2_TENU
4ME_PLUS_EN 4SHA3 4TAK4 2AD 2AK 3TIMES_ERIN2 4SHITA_PLUS_GISH 2AL 3TIMES_AL 4DIM2 4GISH 4HA 4KAD3
4KI 4SHE 4USH 2ALAN 2ALEPH 2AMAR 3TIMES_SHE 2AN 3OVER_AN 3THREE_TIMES
3PLUS_NAGA_OPPOSING_AN_PLUS_NAGA 5SQUARED 2ANSHE 2APIN 2ARAD 3TIMES_KUR 2ARKAB 2ASAL2 2ASH
3ZIDA_TENU 3KABA_TENU 3OVER_ASH_TUG2_OVER_TUG2_TUG2_OVER_TUG2_PAP 5OVER_ASH
7CROSSING_ASH_OVER_ASH_OVER_ASH 2ASH2 2ASHGAB 2BA 2BAD 2BAG3 2BAHAR2 2BAL 3OVER_BAL 2BALAG 2BAR
2BARA2 2BI 3TIMES_A 4GAR 4IGI_GUNU 2BU 3OVER_BU_AB 5UN 3CROSSING_BU 2BULUG 3OVER_BULUG 2BUR 2BUR2
2DA 2DAG 3KISIM5_TIMES_A_PLUS_MASH 5AMAR 5BALAG 5BI 5GA 6PLUS_MASH 5GI 5GIR2 5GUD 5HA 5IR 6PLUS_LU
5KAK 5LA 5LU 6PLUS_MASH2 5LUM 5NE 5PAP_PLUS_PAP 5SI 5TAK4 5U2_PLUS_GIR2 5USH 2DAM 2DAR 2DARA3 +
2DI 2DIB 2DIM 3TIMES_SHE 2DIM2 2DIN 3KASKAL_U_GUNU_DISH 2DISH 2DU 3OVER_DU 3GUNU 3SHESHIG 2DUB
3TIMES_ESH2 2DUB2 2DUG 2DUGUD 2DUH 2DUN 2DUN3 3GUNU 4GUNU 2DUN4 2DUR2 2E 3TIMES_PAP
3OVER_E_NUN_OVER_NUN 2E2 3TIMES_A_PLUS_HA_PLUS_DA 4GAR 4MI 4SAL 4SHE 4U 2EDIN 2EGIR 2EL 2EN
3TIMES_GAN2 5TENU 4ME 3CROSSING_EN 3OPPOSING_EN 3SQUARED 2EREN 2ERIN2 2ESH2 2EZEN 3TIMES_A
5PLUS_LAL 7TIMES_LAL 4AN 4BAD 4DUN3_GUNU 6GUNU 4HA 5GUNU 4IGI_GUNU 4KASKAL 5SQUARED 4KU3 4LA
4LAL_TIMES_LAL 4LI 4LU 4U2 4UD 2GA 3GUNU 2GA2 3TIMES_A_PLUS_DA_PLUS_HA 6HA 6IGI 4AB2_TENU_PLUS_TAB
4AN 4ASH 4ASH2_PLUS_GAL 4BAD 4BAR_PLUS_RA 4BUR 5PLUS_RA 4DA 4DI 4DIM_TIMES_SHE 4DUB 4EL 5PLUS_LA
4EN 5TIMES_GAN2_TENU 4GAN2_TENU 4GAR 4GI 4GI4 5PLUS_A 4GIR2_PLUS_SU 4HA_PLUS_LU_PLUS_ESH2 4HAL
5PLUS_LA 4HI_PLUS_LI 4HUB2 4IGI_GUNU 4ISH_PLUS_HU_PLUS_ASH 4KAK 4KASKAL 4KID 5PLUS_LAL
4KU3_PLUS_AN 4LA 4ME_PLUS_EN 4MI 4NUN 5OVER_NUN 4PA 4SAL 4SAR 4SHE 5PLUS_TUR 4SHID 4SUM 4TAK4 4U
4UD 5PLUS_DU 3OVER_GA2 2GABA 3CROSSING_GABA 2GAD 3OVER_GAD_GAR_OVER_GAR 2GAL
3GAD_OVER_GAD_GAR_OVER_GAR 2GALAM 2GAM 2GAN 2GAN2 3TENU 3OVER_GAN2 3CROSSING_GAN2 2GAR 2GAR3
2GASHAN 2GESHTIN 3TIMES_KUR 2GI 3TIMES_E 4U 3CROSSING_GI 2GI4 3OVER_GI4 3CROSSING_GI4 2GIDIM 2GIR2
3GUNU 2GIR3 3TIMES_A_PLUS_IGI 4GAN2_TENU 4IGI 4LU_PLUS_IGI 4PA 2GISAL 2GISH 3CROSSING_GISH
3TIMES_BAD 4TAK4 3TENU 2GU 3CROSSING_GU 2GU2 3TIMES_KAK 5TIMES_IGI_GUNU 4NUN 4SAL_PLUS_TUG2 3GUNU
2GUD 3TIMES_A_PLUS_KUR 4KUR 3OVER_GUD_LUGAL 2GUL 2GUM 3TIMES_SHE 2GUR 2GUR7 2GURUN 2GURUSH 2HA
3TENU 3GUNU 2HAL 2HI 3TIMES_ASH 4ASH2 4BAD 4DISH 4GAD 4KIN 4NUN 4SHE 4U 2HU 2HUB2 3TIMES_AN 4HAL
4KASKAL 4LISH 4UD 2HUL2 2I 3A 2IB 2IDIM 3OVER_IDIM_BUR 5SQUARED 2IG 2IGI 3DIB 3RI
3OVER_IGI_SHIR_OVER_SHIR_UD_OVER_UD 3GUNU 2IL 3TIMES_GAN2_TENU 2IL2 2IM 3TIMES_TAK4 3CROSSING_IM
3OPPOSING_IM 3SQUARED 2IMIN 2IN 2IR 2ISH 2KA 3TIMES_A 4AD 5PLUS_KU3 4ASH2 4BAD 4BALAG 4BAR 4BI
4ERIN2 4ESH2 4GA 4GAL 4GAN2_TENU 4GAR 5PLUS_SHA3_PLUS_A 4GI 4GIR2 4GISH_PLUS_SAR 5CROSSING_GISH
4GU 4GUR7 4IGI 4IM 4KAK 4KI 4KID 4LI 4LU 4ME 5PLUS_DU 6GI 6TE 4MI 5PLUS_NUNUZ 4NE 4NUN 4PI 4RU 4SA
4SAR 4SHA 4SHE 4SHID 4SHU 4SIG 4SUHUR 4TAR 4U 4U2 4UD 4UMUM_TIMES_PA 4USH 4ZI 2KA2 3CROSSING_KA2
2KAB 2KAD2 + + + 3OVER_KAD5 2KAK 3TIMES_IGI_GUNU 2KAL 3TIMES_BAD 3CROSSING_KAL 2KAM2 2KAM4 2KASKAL
3LAGAB_TIMES_U_OVER_LAGAB_TIMES_U 3OVER_KASKAL_LAGAB_TIMES_U_OVER_LAGAB_TIMES_U 2KESH2 2KI
3TIMES_BAD 4U 4UD 2KID 2KIN 2KISAL 2KISH 2KISIM5 3OVER_KISIM5 2KU
3OVER_HI_TIMES_ASH2_KU_OVER_HI_TIMES_ASH2 2KU3 + 3VARIANT_FORM 2KU7 2KUL 3GUNU 2KUN 2KUR
3OPPOSING_KUR 2KUSHU2 2KWU318 2LA 2LAGAB 3TIMES_A 5PLUS_DA_PLUS_HA 6GAR 6LAL 4AL 4AN
4ASH_ZIDA_TENU 4BAD 4BI 4DAR 4EN 4GA 4GAR 4GUD 5PLUS_GUD 4HA 4HAL 4HI_TIMES_NUN 4IGI_GUNU 4IM
5PLUS_HA 6LU 4KI 4KIN 4KU3 4KUL 5PLUS_HI_PLUS_A 4LAGAB 4LISH 4LU 4LUL 4ME 5PLUS_EN 4MUSH 4NE
4SHE_PLUS_SUM 4SHITA_PLUS_GISH_PLUS_ERIN2 7TENU 4SHU2 5PLUS_SHU2 4SUM 4TAG 4TAK4
4TE_PLUS_A_PLUS_SU_PLUS_NA 4U 5PLUS_A 6U_PLUS_U 4U2_PLUS_ASH 4UD 4USH 3SQUARED 2LAGAR 3TIMES_SHE
5PLUS_SUM 3GUNU 4OVER_LAGAR_GUNU_SHE 2LAHSHU 2LAL 3TIMES_LAL 2LAM 3TIMES_KUR 5PLUS_RU 2LI 2LIL
2LIMMU2 2LISH 2LU 3TIMES_BAD 2LU2 3TIMES_AL 4BAD 4ESH2 5TENU 4GAN2_TENU 4HI_TIMES_BAD 4IM 4KAD2 +
5PLUS_ASH 4KI 4LA_PLUS_ASH 4LAGAB 4ME_PLUS_EN 4NE 4NU 4SI_PLUS_ASH 4SIK2_PLUS_BU 4TUG2 3TENU
3CROSSING_LU2 3OPPOSING_LU2 3SQUARED 3SHESHIG 2LU3 2LUGAL 3OVER_LUGAL 3OPPOSING_LUGAL 3SHESHIG
2LUH 2LUL 2LUM 3OVER_LUM 5GAR_OVER_GAR 2MA 3TIMES_TAK4 3GUNU 2MA2 2MAH 2MAR 2MASH 2MASH2 2ME 2MES
2MI 2MIN 2MU 3OVER_MU 2MUG 3GUNU 2MUNSUB 2MURGU2 2MUSH 3TIMES_A 4KUR 4ZA 3OVER_MUSH
5TIMES_A_PLUS_NA 3CROSSING_MUSH 2MUSH3 3TIMES_A 5PLUS_DI 4DI 3GUNU 2NA 2NA2 2NAGA 3INVERTED
3TIMES_SHU_TENU 3OPPOSING_NAGA 2NAGAR 2NAM_NUTILLU 2NAM 2NAM2 2NE 3TIMES_A 4UD 3SHESHIG 2NI
3TIMES_E 2NI2 2NIM 3TIMES_GAN2_TENU 4GAR_PLUS_GAN2_TENU 2NINDA2 3TIMES_AN 4ASH 5PLUS_ASH 4GUD
4ME_PLUS_GAN2_TENU 4NE 4NUN 4SHE 5PLUS_A_AN 6ASH 7PLUS_ASH 4U2_PLUS_ASH 4USH 2NISAG 2NU 2NU11 2NUN
3LAGAR_TIMES_GAR 5MASH 5SAL 6OVER_NUN_LAGAR_TIMES_SAL 5USH 3TENU 3OVER_NUN 3CROSSING_NUN
5LAGAR_OVER_LAGAR 2NUNUZ 3AB2_TIMES_ASHGAB 5BI 5DUG 5GUD 5IGI_GUNU 5KAD3 5LA 5NE 5SILA3 5U2
3KISIM5_TIMES_BI 6U 2PA 2PAD 2PAN 2PAP 2PESH2 2PI 3TIMES_A 4AB 4BI 4BU 4E 4I 4IB 4U 4U2
3CROSSING_PI 2PIRIG 3TIMES_KAL 4UD 4ZA 3OPPOSING_PIRIG 2RA 2RAB 2RI 2RU 2SA 2SAG_NUTILLU 2SAG
3TIMES_A 4DU 4DUB 4HA 4KAK 4KUR 4LUM 4MI 4NUN 4SAL 4SHID 4TAB 4U2 4UB 4UM 4UR 4USH 3OVER_SAG 3GUNU
2SAL 3LAGAB_TIMES_ASH2 2SANGA2 2SAR 2SHA 2SHA3 3TIMES_A 4BAD 4GISH 4NE 4SHU2 4TUR 4U 5PLUS_A 2SHA6
2SHAB6 2SHAR2 2SHE 3HU 3OVER_SHE_GAD_OVER_GAD_GAR_OVER_GAR 5TAB_OVER_TAB_GAR_OVER_GAR 2SHEG9 2SHEN
2SHESH 2SHESH2 2SHESHLAM 2SHID 3TIMES_A 4IM 2SHIM 3TIMES_A 4BAL 4BULUG 4DIN 4GAR 4IGI 5GUNU
4KUSHU2 4LUL 4MUG 4SAL 2SHINIG 2SHIR 3TENU 3OVER_SHIR_BUR_OVER_BUR 2SHITA 2SHU 3OVER_INVERTED_SHU
2SHU2 2SHUBUR 2SI 3GUNU 2SIG 2SIG4 3OVER_SIG4_SHU2 2SIK2 2SILA3 2SU 3OVER_SU 2SUD 2SUD2 2SUHUR
2SUM 2SUMASH 2SUR 2SUR9 2TA 3ASTERISK 3TIMES_HI 4MI 3GUNU 2TAB 3OVER_TAB_NI_OVER_NI_DISH_OVER_DISH
3SQUARED 2TAG 3TIMES_BI 4GUD 4SHE 4SHU 4TUG2 4UD 2TAK4 2TAR 2TE 3GUNU 2TI 3TENU 2TIL 2TIR
3TIMES_TAK4 3OVER_TIR 5GAD_OVER_GAD_GAR_OVER_GAR 2TU 2TUG2 2TUK 2TUM 2TUR 3OVER_TUR_ZA_OVER_ZA 2U
3GUD 3U_U 3OVER_U_PA_OVER_PA_GAR_OVER_GAR 5SUR_OVER_SUR 5U_REVERSED_OVER_U_REVERSED 2U2 2UB 2UD
3KUSHU2 3TIMES_BAD 4MI 4U_PLUS_U_PLUS_U 9GUNU 3GUNU 3SHESHIG 4TIMES_BAD 2UDUG 2UM 3TIMES_LAGAB
4ME_PLUS_DA 4SHA3 4U 2UMBIN 2UMUM 3TIMES_KASKAL 4PA 2UN 3GUNU 2UR 3CROSSING_UR 3SHESHIG 2UR2
3TIMES_A_PLUS_HA 6NA 4AL 4HA 4NUN 4U2 5PLUS_ASH 6BI 2UR4 2URI 2URI3 2URU 3TIMES_A 4ASHGAB 4BAR
4DUN 4GA 4GAL 4GAN2_TENU 4GAR 4GU 4HA 4IGI 4IM 4ISH 4KI 4LUM 4MIN 4PA 4SHE 4SIG4 4TU 4U_PLUS_GUD
4UD 4URUDA 2URUDA 3TIMES_U 2USH 3TIMES_A 4KU 4KUR 4TAK4 2USHX 2USH2 2USHUMX 2UTUKI 2UZ3
3TIMES_KASKAL 2UZU 2ZA 3TENU 3SQUARED_TIMES_KUR 2ZAG 2ZAMX 2ZE2 2ZI 3OVER_ZI 2ZI3 2ZIB 3KABA_TENU
2ZIG 2ZIZ2 2ZU 2ZU5 3TIMES_A 2ZUBUR 2ZUM 2KAP_ELAMITE 2AB_TIMES_NUN 2AB2_TIMES_A 2AMAR_TIMES_KUG
2DAG_KISIM5_TIMES_U2_PLUS_MASH 2DAG3 2DISH_PLUS_SHU 2DUB_TIMES_SHE 2EZEN_TIMES_GUD 4SHE
2GA2_TIMES_AN_PLUS_KAK_PLUS_A 4ASH2 2GE22 2GIG 2HUSH 2KA_TIMES_ANSHE 4ASH3 4GISH 4GUD
4HI_TIMES_ASH2 4LUM 4PA 4SHUL 4TU 4UR2 2LAGAB_TIMES_GI 2LU2_SHESHIG_TIMES_BAD 3TIMES_ESH2_PLUS_LAL
4SHU 2MESH 2MUSH3_TIMES_ZA 2NA4 2NIN 2NIN9 2NINDA2_TIMES_BAL 4GI 2NU11_ROTATED_NINETY_DEGREES
2PESH2_ASTERISK 2PIR2 2SAG_TIMES_IGI_GUNU 2TI2 2UM_TIMES_ME 2U_U @12400 1NUMERIC_SIGN_TWO_ASH
3THREE_ASH 3FOUR_ASH 3FIVE_ASH 3SIX_ASH 3SEVEN_ASH 3EIGHT_ASH 3NINE_ASH 3THREE_DISH 3FOUR_DISH
3FIVE_DISH 3SIX_DISH 3SEVEN_DISH 3EIGHT_DISH 3NINE_DISH 3FOUR_U 3FIVE_U 3SIX_U 3SEVEN_U 3EIGHT_U
3NINE_U 3ONE_GESH2 3TWO_GESH2 3THREE_GESH2 3FOUR_GESH2 3FIVE_GESH2 3SIX_GESH2 3SEVEN_GESH2
3EIGHT_GESH2 3NINE_GESH2 3ONE_GESHU 3TWO_GESHU 3THREE_GESHU 3FOUR_GESHU 3FIVE_GESHU 3TWO_SHAR2
3THREE_SHAR2 5VARIANT_FORM 3FOUR_SHAR2 3FIVE_SHAR2 3SIX_SHAR2 3SEVEN_SHAR2 3EIGHT_SHAR2
3NINE_SHAR2 3ONE_SHARU 3TWO_SHARU 3THREE_SHARU 5VARIANT_FORM 3FOUR_SHARU 3FIVE_SHARU
3SHAR2_TIMES_GAL_PLUS_DISH 7MIN 3ONE_BURU 3TWO_BURU 3THREE_BURU 5VARIANT_FORM 3FOUR_BURU
3FIVE_BURU 3THREE_VARIANT_FORM_ESH16 6ESH21 3FOUR_VARIANT_FORM_LIMMU 6LIMMU4 6LIMMU_A 7B
3SIX_VARIANT_FORM_ASH9 3SEVEN_VARIANT_FORM_IMIN3 6IMIN_A 7B 3EIGHT_VARIANT_FORM_USSU 6USSU3
3NINE_VARIANT_FORM_ILIMMU 6ILIMMU3 + 6ILIMMU_A 3TWO_ASH_TENU 3THREE_ASH_TENU 3FOUR_ASH_TENU
3FIVE_ASH_TENU 3SIX_ASH_TENU 3ONE_BAN2 3TWO_BAN2 3THREE_BAN2 3FOUR_BAN2 5VARIANT_FORM 3FIVE_BAN2
5VARIANT_FORM 3NIGIDAMIN 3NIGIDAESH 3ONE_ESHE3 3TWO_ESHE3 3ONE_THIRD_DISH 3TWO_THIRDS_DISH
3FIVE_SIXTHS_DISH 3ONE_THIRD_VARIANT_FORM_A 3TWO_THIRDS_VARIANT_FORM_A 3ONE_EIGHTH_ASH
4QUARTER_ASH 3OLD_ASSYRIAN_ONE_SIXTH 6QUARTER 3ONE_QUARTER_GUR 4HALF_GUR 3ELAMITE_ONE_THIRD
4TWO_THIRDS 4FORTY 4FIFTY 3FOUR_U_VARIANT_FORM 3FIVE_U_VARIANT_FORM 3SIX_U_VARIANT_FORM
3SEVEN_U_VARIANT_FORM 3EIGHT_U_VARIANT_FORM 3NINE_U_VARIANT_FORM @12470
1PUNCTUATION_SIGN_OLD_ASSYRIAN_WORD_DIVIDER 3VERTICAL_COLON 3DIAGONAL_COLON 4TRICOLON 4QUADCOLON
@12480 1SIGN_AB_TIMES_NUN_TENU 4SHU2 2AD_TIMES_ESH2 2BAD_TIMES_DISH_TENU 2BAHAR2_TIMES_AB2 4NI 4ZA
2BU_OVER_BU_TIMES_NA2 2DA_TIMES_TAK4 2DAG_TIMES_KUR 2DIM_TIMES_IGI 4U_U_U 2DIM2_TIMES_UD
2DUG_TIMES_ANSHE 4ASH 5AT_LEFT 4DIN 4DUN 4ERIN2 4GA 4GI 4GIR2_GUNU 4GISH 4HA 4HI 4IGI_GUNU 4KASKAL
4KUR 4KUSHU2 5PLUS_KASKAL 4LAK-020 4LAM 5TIMES_KUR 4LUH_PLUS_GISH 4MASH 4MES 4MI 4NI 4PI 4SHE
4SI_GUNU 2E2_TIMES_KUR 4PAP 2ERIN2_X 2ESH2_CROSSING_ESH2 2EZEN_SHESHIG_TIMES_ASH 5HI 5IGI_GUNU 5LA
5LAL 5ME 5MES 5SU 3TIMES_SU 2GA2_TIMES_BAHAR2 4DIM_GUNU 4DUG_TIMES_IGI_GUNU 6KASKAL 4EREN 4GA
4GAR_PLUS_DI 6NE 4HA_PLUS_A 4KUSHU2_PLUS_KASKAL 4LAM 5TIMES_KUR 4LUH 4MUSH 4NE 5PLUS_E2 6GI 4SHIM
4ZIZ2 2GABA_ROTATED_NINETY_DEGREES 2GESHTIN_TIMES_U 2GISH_TIMES_GISH_CROSSING_GISH
2GU2_TIMES_IGI_GUNU 2GUD_PLUS_GISH_TIMES_TAK4 2HA_TENU_GUNU 2HI_TIMES_ASH_OVER_HI_TIMES_ASH
2KA_TIMES_BU 4KA 4U_U_U 4UR 2LAGAB_TIMES_ZU_OVER_ZU 2LAK-003 2LAK-021 2LAK-025 2LAK-030 2LAK-050 +
2LAK-062 2LAK-079_OVER_LAK-079_GUNU 2LAK-080 2LAK-081_OVER_LAK-081 2LAK-092 2LAK-130 2LAK-142
2LAK-210 2LAK-219 + 2LAK-225 2LAK-228 2LAK-238 2LAK-265 + 2LAK-343 2LAK-347 + 2LAK-383 + 2LAK-390
2LAK-441 2LAK-449 3TIMES_GU 4IGI 4PAP_PLUS_LU3 6PAP_PLUS_LU3 4U2_PLUS_BA 2LAK-450 2LAK-457
2LAK-470 2LAK-483 2LAK-490 2LAK-492 + 2LAK-495 2LAK-550 2LAK-608 2LAK-617 3TIMES_ASH 4BAD
4DUN3_GUNU_GUNU 4KU3 4LA 4TAR 4TE 4U2 4UD 4URUDA 2LAK-636 2LAK-648 3TIMES_DUB 4GA 4IGI 5GUNU 4NI
4PAP_PLUS_PAP_PLUS_LU3 4SHESH_PLUS_KI 4UD 4URUDA 2LAK-724 2LAK-749 2LU2_GUNU_TIMES_ASH 3TIMES_DISH
4HAL 4PAP 5PLUS_PAP_PLUS_LU3 4TAK4 2MI_PLUS_ZA7 2MUSH_OVER_MUSH_TIMES_GA 6KAK
2NINDA2_TIMES_DIM_GUNU 4GISH 4GUL 4HI 4KESH2 4LAK-050 4MASH 4PAP_PLUS_PAP 4U 5PLUS_U 4URUDA
2SAG_GUNU_TIMES_HA 3TIMES_EN 4SHE_AT_LEFT 4TAK4 2SHA6_TENU 2SHE_OVER_SHE 3PLUS_HUB2 4NAM2 4SAR
2SHU2_PLUS_DUG_TIMES_NI 4E2_TIMES_AN 2SI_TIMES_TAK4 2TAK4_PLUS_SAG 2TUM_TIMES_GAN2_TENU
4THREE_DISH 2UR2_INVERTED 3TIMES_UD 2URU_TIMES_DARA3 4LAK-668 4LU3 2ZA7 2ZU_OVER_ZU_PLUS_SAR
2ZU5_TIMES_THREE_DISH_TENU @12F90 0CYPRO-MINOAN_SIGN_CM001 + 2CM004 + + + + + + + + 2CM012B 2CM013
2CM015 2CM017 2CM019 2CM021 2CM023 + + + + + + + 2CM033 + + + + + + + + 2CM044 2CM046 + 2CM049 + +
+ + + + + 2CM058 + + + + + + 2CM066 + + + + + + + + + 2CM075B 2CM076 2CM078 + + + + + + + + + + +
+ + + 2CM094 + + + + + + + + + + + 2CM107 + + + 2CM112 2CM114 2CM301 + @13000
0EGYPTIAN_HIEROGLYPH_A001 + + + + 2A005A 2A006 2A006A 2A006B 2A007 + + + + + + + 2A014A 2A015 + +
2A017A 2A018 + + + + + + + + + + + + + + 2A032A 2A033 + + + + + + + 2A040A 2A041 + 2A042A 2A043
2A043A 2A044 + 2A045A 2A046 + + + + + + + + + + + + + + + + + + + + + + + + 2B001 + + + + 2B005A
2B006 + + + 2C001 + 2C002A 2C002B 2C002C 2C003 + + + + + + + 2C010A 2C011 + + + + + + + + + + + +
+ 2D001 + + + + + + + 2D008A 2D009 + + + + + + + + + + + + + + + + + + 2D027A 2D028 + + + 2D031A
2D032 + + 2D034A 2D035 + + + + + + + + + + + 2D046A 2D047 + 2D048A 2D049 + 2D050A 2D050B 2D050C
2D050D 2D050E 2D050F 2D050G 2D050H 2D050I 2D051 + 2D052A 2D053 + 2D054A 2D055 + + + + + + + + + +
+ + 2D067A 2D067B 2D067C 2D067D 2D067E 2D067F 2D067G 2D067H 2E001 + + + + + + + 2E008A 2E009
2E009A 2E010 + + + + + + 2E016A 2E017 2E017A 2E018 + + 2E020A 2E021 + + + + + + + 2E028A 2E029 + +
+ + + 2E034A 2E036 + + 2F001 2F001A 2F002 + + + + + + + + + + + 2F013A 2F014 + + + + + + + 2F021A
2F022 + + + + + + + + + 2F031A 2F032 + + + + + 2F037A 2F038 2F038A 2F039 + + + + + + 2F045A 2F046
2F046A 2F047 2F047A 2F048 + + + 2F051A 2F051B 2F051C 2F052 + 2G001 + + + + + 2G006A 2G007 2G007A
2G007B 2G008 + + + 2G011A 2G012 + + + + + + + + 2G020A 2G021 + + + + + 2G026A 2G027 + + + + + + +
+ + 2G036A 2G037 2G037A 2G038 + + + + + 2G043A 2G044 + 2G045A 2G046 + + + + + + + + 2H001 + + + +
+ 2H006A 2H007 + 2I001 + + + + 2I005A 2I006 + + + 2I009A 2I010 2I010A 2I011 2I011A 2I012 + + +
2K001 + + + + + + + 2L001 + 2L002A 2L003 + + + 2L006A 2L007 + 2M001 2M001A 2M001B 2M002 + 2M003A
2M004 + + + + + + 2M010A 2M011 + 2M012A 2M012B 2M012C 2M012D 2M012E 2M012F 2M012G 2M012H 2M013 + +
2M015A 2M016 2M016A 2M017 2M017A 2M018 + + + + 2M022A 2M023 + 2M024A 2M025 + + + 2M028A 2M029 + +
2M031A 2M032 + 2M033A 2M033B 2M034 + + + + + + 2M040A 2M041 + + + 2N001 + + + + + + + + + + + + +
+ + + + 2N018A 2N018B 2N019 + + + + + + 2N025A 2N026 + + + + + + + 2N033A 2N034 2N034A 2N035
2N035A 2N036 + 2N037A 2N038 + + + + 2NL001 + + + + 2NL005A 2NL006 + + + + + + + + + + + 2NL017A
2NL018 + + 2NU001 + + + + + + + + + 2NU010A 2NU011 2NU011A 2NU012 + + + + + + 2NU018A 2NU019 + + +
2NU022A 2O001 2O001A 2O002 + + + 2O005A 2O006 2O006A 2O006B 2O006C 2O006D 2O006E 2O006F 2O007 + +
+ 2O010A 2O010B 2O010C 2O011 + + + + + + + + 2O019A 2O020 2O020A 2O021 + + + 2O024A 2O025 2O025A
2O026 + + + 2O029A 2O030 2O030A 2O031 + + 2O033A 2O034 + + 2O036A 2O036B 2O036C 2O036D 2O037 + + +
+ + + + + + + + + + 2O050A 2O050B 2O051 2P001 2P001A 2P002 + 2P003A 2P004 + + + + + + + 2Q001 + +
+ + + + 2R001 + 2R002A 2R003 2R003A 2R003B 2R004 + + + + + + 2R010A 2R011 + + + + + 2R016A 2R017 +
+ + + + + + + + + + + 2S001 + 2S002A 2S003 + + + 2S006A 2S007 + + + + + + + 2S014A 2S014B 2S015 +
+ 2S017A 2S018 + + + + + + + + 2S026A 2S026B 2S027 + + + + + + + + 2S035A 2S036 + + + + + + + + +
+ 2T001 + + 2T003A 2T004 + + + 2T007A 2T008 2T008A 2T009 2T009A 2T010 + 2T011A 2T012 + + + +
2T016A 2T017 + + + + + + + + + + + + + + + 2T032A 2T033 2T033A 2T034 + + 2U001 + + + + + 2U006A
2U006B 2U007 + + + + + + + + + + + + + + + + 2U023A 2U024 + + + + + 2U029A 2U030 + + 2U032A 2U033
+ + + + + + + + + 2V001 2V001A 2V001B 2V001C 2V001D 2V001E 2V001F 2V001G 2V001H 2V001I 2V002
2V002A 2V003 + + + + 2V007A 2V007B 2V008 + + + 2V011A 2V011B 2V011C 2V012 2V012A 2V012B 2V013 + +
+ + + + + 2V020A 2V020B 2V020C 2V020D 2V020E 2V020F 2V020G 2V020H 2V020I 2V020J 2V020K 2V020L
2V021 + + 2V023A 2V024 + + + + 2V028A 2V029 2V029A 2V030 2V030A 2V031 2V031A 2V032 + 2V033A 2V034
+ + + 2V037A 2V038 + + 2V040A 2W001 + + 2W003A 2W004 + + + + + 2W009A 2W010 2W010A 2W011 + + +
2W014A 2W015 + + 2W017A 2W018 2W018A 2W019 + + + + + 2W024A 2W025 2X001 + + + 2X004A 2X004B 2X005
+ 2X006A 2X007 + 2X008A 2Y001 2Y001A 2Y002 + + + + + + 2Z001 + 2Z002A 2Z002B 2Z002C 2Z002D 2Z003
2Z003A 2Z003B 2Z004 2Z004A 2Z005 2Z005A 2Z006 + + + + + + + + + 2Z015A 2Z015B 2Z015C 2Z015D 2Z015E
2Z015F 2Z015G 2Z015H 2Z015I 2Z016 2Z016A 2Z016B 2Z016C 2Z016D 2Z016E 2Z016F 2Z016G 2Z016H 2AA001 +
+ + + + + 2AA007A 2AA007B 2AA008 + + + + + + + + + + + + + + + + + + + + + + + + @13430
2VERTICAL_JOINER 2HORIZONTAL_JOINER 2INSERT_AT_TOP_START 4BOTTOM_START 4TOP_END 4BOTTOM_END
2OVERLAY_MIDDLE 2BEGIN_SEGMENT 2END_SEGMENT @14400 0ANATOLIAN_HIEROGLYPH_A001 + + + + + + + + +
2A010A 2A011 + + + + + + + + + + + + + + + 2A026A 2A027 + + + + + + + + + + + + 2A039A 2A040 +
2A041A 2A042 + + + 2A045A 2A046 2A046A 2A046B 2A047 + + + + + + + + + + + + + + + + + + + 2A066A
2A066B 2A066C 2A067 + + + + + + + + + + + + + + + + + + + + + + + + + + + + + + 2A097A 2A098
2A098A 2A099 + 2A100A 2A101 2A101A 2A102 2A102A 2A103 + 2A104A 2A104B 2A104C 2A105 2A105A 2A105B
2A106 + 2A107A 2A107B 2A107C 2A108 + + 2A110A 2A110B 2A111 + + + + 2A115A 2A116 + + + + + + + + +
2A125A 2A126 + + + + + + + + + 2A135A 2A136 + + + + + + + + + + + + + + + + + + + + + + + + + + +
+ + + + + + + + + + + + + + + + + + + + + + + + + + + + + + + + + + + + + + + 2A202A 2A202B 2A203
+ + + + 2A207A 2A208 + 2A209A 2A210 + + + + + 2A215A 2A216 2A216A 2A217 + + + + + + + + + + 2A227A
2A228 + + + + + + + + + + + + + + + + + + + + + + + + + + + + + + + + + + + + + + + 2A267A 2A268 +
+ + + + + + + + + + + + + + + + + + + + 2A289A 2A290 + + + + 2A294A 2A295 + + + + 2A299A 2A300 + +
+ + + + + + + 2A309A 2A310 + + + + + + + + + + + + + + + + + + + 2A329A 2A330 + 2A332A 2A332B
2A332C 2A333 + + + 2A336A 2A336B 2A336C 2A337 + + + + + + + + + + + + + + + + + + + + + + 2A359A
2A360 + + + + 2A364A 2A365 + + + 2A368A 2A369 + + 2A371A 2A372 + + + + + + + + + 2A381A 2A382
2A383_RA_OR_RI 2A383A 2A384 + + 2A386A 2A387 + + + + + 2A393_EIGHT 2A394 + + + + + + + + + + + + +
+ + 2A410_BEGIN_LOGOGRAM_MARK 2A410A_END_LOGOGRAM_MARK 2A411 + + + + + + + + + + + + + + + + + + +
+ + + + + + + + + + + + + + + + + + + + 2A450A 2A451 + + + + + + 2A457A 2A458 + + + + + + + + + +
+ + + + + + + + + + + + + + + + + + + + + + + + + + + + + 2A501 + + + + + + + + + + + + + + + + +
+ + + + + + + + + + + + @16800 0BAMUM_LETTER_PHASE-A_NGKUE_MFON 3GBIEE_FON 3PON_MFON_PIPAEMGBIEE
5PIPAEMBA 3NAA_MFON 3SHUENSHUET 3TITA_MFON 3NZA_MFON 3SHINDA_PA_NJI 3PON_PA_NJI_PIPAEMGBIEE
6PIPAEMBA 3MAEMBGBIEE 3TU_MAEMBA 3NGANGU 3MAEMVEUX 3MANSUAE 3MVEUAENGAM 3SEUNYAM 3NTOQPEN
3KEUKEUTNDA 3NKINDI 3SUU 3NGKUENZEUM 3LAPAQ 3LET_KUT 3NTAP_MFAA 3MAEKEUP 3PASHAE 3GHEUAERAE
3PAMSHAE 3MON_NGGEUAET 3NZUN_MEUT 3U_YUQ_NAE 3GHEUAEGHEUAE 3NTAP_NTAA 3SISA 3MGBASA 3MEUNJOMNDEUQ
3MOOMPUQ 3KAFA 3PA_LEERAEWA 3NDA_LEERAEWA 3PET 3MAEMKPEN 3NIKA 3PUP 3TUAEP 3LUAEP 3SONJAM
3TEUTEUWEN 3MAENYI 3KET 3NDAANGGEUAET 3KUOQ 3MOOMEUT 3SHUM 3LOMMAE 3FIRI 3ROM 3KPOQ 3SOQ
3MAP_PIEET 3SHIRAE 3NTAP 3SHOQ_NSHUT_YUM 3NYIT_MONGKEUAEQ 3PAARAE 3NKAARAE 3UNKNOWN 3NGGEN 3MAESI
3NJAM 3MBANYI 3NYET 3TEUAEN 3SOT 3PAAM 3NSHIEE 3MAEM 3NYI 3KAQ 3NSHA 3VEE 3LU 3NEN 3NAQ 3MBAQ
2PHASE-B_NSHUET 3TU_MAEMGBIEE 3SIEE 3SET_TU 3LOM_NTEUM 3MBA_MAELEE 3KIEEM 3YEURAE 3MBAARAE 3KAM
3PEESHI 3YAFU_LEERAEWA 3LAM_NSHUT_NYAM 3NTIEE_SHEUOQ 3NDU_NJAA 3GHEUGHEUAEM 3PIT 3TU_NSIEE
3SHET_NJAQ 3SHEUAEQTU 3MFON_TEUAEQ 3MBIT_MBAAKET 3NYI_NTEUM 3KEUPUQ 3GHEUGHEN 3KEUYEUX 3LAANAE
3PARUM 3VEUM 3NGKINDI_MVOP 3NGGEU_MBU 3WUAET 3SAKEUAE 3TAAM 3MEUQ 3NGGUOQ 4LARGE 3MFIYAQ 3SUE
3MBEURI 3MONTIEEN 3NYAEMAE 3PUNGAAM 3MEUT_NGGEET 3FEUX 3MBUOQ 3FEE 3KEUAEM 3MA_NJEUAENA 4NJUQA
3LET 3NGGAAM 3NSEN 3MA 3KIQ 3NGOM 2PHASE-C_NGKUE_MAEMBA 3NZA 3YUM 3WANGKUOQ 3NGGEN 3NDEUAEREE
3NGKAQ 3GHARAE 3MBEEKEET 3GBAYI 3NYIR_MKPARAQ_MEUN 3NTU_MBIT 3MBEUM 3PIRIEEN 3NDOMBU
3MBAA_CABBAGE-TREE 3KEUSHEUAEP 3GHAP 3KEUKAQ 3YU_MUOMAE 3NZEUM 3MBUE 3NSEUAEN 3MBIT 3YEUQ 3KPARAQ
3KAA 3SEUX 3NDIDA 3TAASHAE 3NJUEQ 3TITA_YUE 3SUAET 3NGGUAEN_NYAM 3VEUX 3NANSANAQ 3MA_KEUAERI 3NTAA
3NGGUON 3LAP 3MBIRIEEN 3MGBASAQ 3NTEUNGBA 3TEUTEUX 3NGGUM 3FUE 3NDEUT 3NSA 3NSHAQ 3BUNG 3VEUAEPEN
3MBERAE 3RU 3NJAEM 3LAM 3TITUAEP 3NSUOT_NGOM 3NJEEEE 3KET 3NGGU 3MAESI 3MBUAEM 3LU 3KUT 3NJAM
3NGOM 3WUP 3NGGUEET 3NSOM 3NTEN 3KUOP_NKAARAE 3NSUN 3NDAM 3MA_NSIEE 3YAA 3NDAP 3SHUEQ 3SETFON 3MBI
3MAEMBA 3MBANYI 3KEUSEUX 3MBEUX 3KEUM 3MBAA_PICKET 3YUWOQ 3NJEUX 3MIEE 3MUAE 3SHIQ 3KEN_LAW
4FATIGUE 3NGAQ 3NAQ 3LIQ 3PIN 3PEN 3TET 2PHASE-D_MBUO 3WAP 3NJI 3MFON 3NJIEE 3LIEE 3NJEUT 3NSHEE
3NGGAAMAE 3NYAM 3WUAEN 3NGKUN 3SHEE 3NGKAP 3KEUAETMEUN 3TEUT 3SHEUAE 3NJAP 3SUE 3KET 3YAEMMAE
3KUOM 3SAP 3MFEUT 3NDEUX 3MALEERI 3MEUT 3SEUAEQ 3YEN 3NJEUAEM 3KEUOT_MBUAE 3NGKEURI 3TU 3GHAA
3NGKYEE 3FEUFEUAET 3NDEE 3MGBOFUM 3LEUAEP 3NDON 3MONI 3MGBEUN 3PUUT 3MGBIEE 3MFO 3LUM 3NSIEEP
3MBAA 3KWAET 3NYET 3TEUAEN 3SOT 3YUWOQ 3KEUM 3RAEM 3TEEEE 3NGKEUAEQ 3MFEUAE 3NSIEET 3KEUP 3PIP
3PEUTAE 3NYUE 3LET 3NGGAAM 3MFIEE 3NGGWAEN 3YUOM 3PAP 3YUOP 3NDAM 3NTEUM 3SUAE 3KUN 3NGGEUX
3NGKIEE 3TUOT 3MEUN 3KUQ 3NSUM 3TEUN 3MAENJET 3NGGAP 3LEUM 3NGGUOM 3NSHUT 3NJUEQ 3GHEUAE 3KU
3REN_OLD 3TAE 3TOQ 3NYI 3RII 3LEEEE 3MEEEE 3M 3SUU 3MU 3SHII 3SHEUX 3KYEE 3NU 3SHU 3NTEE 3PEE 3NI
3SHOQ 3PUQ 3MVOP 3LOQ 3REN_MUCH 3TI 3NTUU 3MBAA_SEVEN 3SAQ 3FAA 2PHASE-E_NDAP 3TOON 3MBEUM 3LAP
3VOM 3LOON 3PAA 3SOM 3RAQ 3NSHUOP 3NDUN 3PUAE 3TAM 3NGKA 3KPEUX 3WUO 3SEE 3NGGEUAET 3PAAM 3TOO
3KUOP 3LOM 3NSHIEE 3NGOP 3MAEM 3NGKEUX 3NGOQ 3NSHUE 3RIMGBA 3NJEUX 3PEEM 3SAA 3NGGURAE 3MGBA
3GHEUX 3NGKEUAEM 3NJAEMLI 3MAP 3LOOT 3NGGEEEE 3NDIQ 3TAEN_NTEUM 3SET 3PUM 3NDAA_SOFTNESS
3NGGUAESHAE_NYAM 3YIEE 3GHEUN 3TUAE 3YEUAE 3PO 3TUMAE 3KEUAE 3SUAEN 3TEUAEQ 3VEUAE 3WEUX 3LAAM 3PU
3TAAQ 3GHAAMAE 3NGEUREUT 3SHEUAEQ 3MGBEN 3MBEE 3NZAQ 3NKOM 3GBET 3TUM 3KUET 3YAP 3NYI_CLEAVER 3YIT
3MFEUQ 3NDIAQ 3PIEEQ 3YUEQ 3LEUAEM 3FUE 3GBEUX 3NGKUP 3KET 3MAE 3NGKAAMI 3GHET 3FA 3NTUM 3PEUT
3YEUM 3NGGEUAE 3NYI_BETWEEN 3NZUQ 3POON 3MIEE 3FUET 3NAE 3MUAE 3GHEUAE 3FU_I 3MVI 3PUAQ 3NGKUM
3KUT 3PIET 3NTAP 3YEUAET 3NGGUP 3PA_PEOPLE 3FU_CALL 3FOM 3NJEE 3A 3TOQ 3O 3I 3LAQ 3PA_PLURAL 3TAA
3TAQ 3NDAA_MY_HOUSE 3SHIQ 3YEUX 3NGUAE 3YUAEN 3YOQ_SWIMMING 4COVER 3YUQ 3YUN 3KEUX 3PEUX
3NJEE_EPOCH 3PUE 3WUE 3FEE 3VEE 3LU 3MI 3REUX 3RAE 3NGUAET 3NGA 3SHO 3SHOQ 3FU_REMEDY 3NA 3PI 3LOQ
3KO 3MEN 3MA 3MAQ 3TEU 3KI 3MON 3TEN 3FAQ 3GHOM 2PHASE-F_KA 3U 3KU 3EE 3REE 3TAE 3NYI 3LA 3RII
3RIEE 3MEEEE 3TAA 3NDAA 3NJAEM 3M 3SUU 3SHII 3SI 3SEUX 3KYEE 3KET 3NUAE 3NU 3NJUAE 3YOQ 3SHU 3YA
3NSHA 3PEUX 3NTEE 3WUE 3PEE 3RU 3NI 3REUX 3KEN 3NGKWAEN 3NGGA 3SHO 3PUAE 3FOM 3WA 3LI 3LOQ 3KO
3MBEN 3REN 3MA 3MO 3MBAA 3TET 3KPA 3SAMBA 3VUEQ @16A40 0MRO_LETTER_TA 2NGI 2YO 2MIM 2BA 2DA 2A
2PHI 2KHAI 2HAO 2DAI 2CHU 2KEAAE 2OL 2MAEM 2NIN 2PA 2OO 2O 2RO 2SHI 2THEA 2EA 2WA 2E 2KO 2LAN 2LA
2HAI 2RI 2TEK @16A60 1DIGIT_ZERO 2ONE 2TWO 2THREE 2FOUR 2FIVE 2SIX 2SEVEN 2EIGHT 2NINE @16A6E
1DANDA 1DOUBLE_DANDA 0TANGSA_LETTER_OZ 2OC 2OQ 2OX 2AZ 2AC 2AQ 2AX 2VZ 2VC 2VQ 2VX 2EZ 2EC 2EQ 2EX
2IZ 2IC 2IQ 2IX 2UZ 2UC 2UQ 2UX 2AWZ 2AWC 2AWQ 2AWX 2UIZ 2UIC 2UIQ 2UIX 2FINAL_NG 2LONG_UEX
2SHORT_UEZ 3AWX 2UEC 2UEZ 2UEQ 2UEX 2UIUZ 2UIUC 2UIUQ 2UIUX 2MZ 2MC 2MQ 2MX 2KA 2KHA 2GA 2NGA 2SA
2YA 2WA 2PA 2NYA 2PHA 2BA 2MA 2NA 2HA 2LA 2HTA 2TA 2DA 2RA 2NHA 2SHA 2CA 2TSA 2GHA 2HTTA 2THA 2XA
2FA 2DHA 2CHA 2ZA @16AC0 1DIGIT_ZERO 2ONE 2TWO 2THREE 2FOUR 2FIVE 2SIX 2SEVEN 2EIGHT 2NINE @16AD0
0BASSA_VAH_LETTER_ENNI 3KA 3SE 3FA 3MBE 3YIE 3GAH 3DHII 3KPAH 3JO 3HWAH 3WA 3ZO 3GBU 3DO 3CE 3UWU
3TO 3BA 3VU 3YEIN 3PA 3WADDA 3A 3O 3OO 3U 3EE 3E 3I @16AF0 2COMBINING_HIGH_TONE 3LOW_TONE
3MID_TONE 3LOW-MID_TONE 3HIGH-LOW_TONE 2FULL_STOP @16B00 0PAHAWH_HMONG_VOWEL_KEEB 3KEEV 3KIB 3KIV
3KAUB 3KAUV 3KUB 3KUV 3KEB 3KEV 3KAIB 3KAIV 3KOOB 3KOOV 3KAWB 3KAWV 3KUAB 3KUAV 3KOB 3KOV 3KIAB
3KIAV 3KAB 3KAV 3KWB 3KWV 3KAAB 3KAAV 2CONSONANT_VAU 3NTSAU 3LAU 3HAU 3NLAU 3RAU 3NKAU 3QHAU 3YAU
3HLAU 3MAU 3CHAU 3NCHAU 3HNAU 3PLHAU 3NTHAU 3NAU 3AU 3XAU 3CAU 2MARK_CIM_TUB 4SO 4KES 4KHAV 4SUAM
4HOM 4TAUM 2SIGN_VOS_THOM 4TSHAB_CEEB 3CIM_CHEEM 3VOS_THIAB 4FEEM 3XYEEM_NTXIV 4RHO 4TOV 4FAIB
3VOS_SEEV 3MEEJ_SUAB 3VOS_NRUA 3IB_YAM 3XAUS 3CIM_TSOV_ROG @16B50 2DIGIT_ZERO 3ONE 3TWO 3THREE
3FOUR 3FIVE 3SIX 3SEVEN 3EIGHT 3NINE @16B5B 2NUMBER_TENS 3HUNDREDS 3TEN_THOUSANDS 3MILLIONS
3HUNDRED_MILLIONS 3TEN_BILLIONS 3TRILLIONS @16B63 2SIGN_VOS_LUB 3XYOO 3HLI 3THIRD-STAGE_HLI
3ZWJ_THAJ 3HNUB 3NQIG 3XIAB 3NTUJ 3AV 3TXHEEJ_CEEV 3MEEJ_TSEEB 3TAU 3LOS 3MUS
3CIM_HAIS_LUS_NTOG_NTOG 4CUAM_TSHOOJ 4TXWV 5CHWV 4PUB_DAWB 4NRES_TOS @16B7D 2CLAN_SIGN_TSHEEJ
4YEEG 4LIS 4LAUJ 4XYOOJ 4KOO 4HAWJ 4MUAS 4THOJ 4TSAB 4PHAB 4KHAB 4HAM 4VAJ 4FAJ 4YAJ 4TSWB 4KWM
4VWJ @16E40 0MEDEFAIDRIN_CAPITAL_LETTER_M 3S 3V 3W 3ATIU 3Z 3KP 3P 3T 3G 3F 3I 3K 3A 3J 3E 3B 3C
3U 3YU 3L 3Q 3HP 3NY 3X 3D 3OE 3N 3R 3O 3AI 3Y 1SMALL_LETTER_M 3S 3V 3W 3ATIU 3Z 3KP 3P 3T 3G 3F
3I 3K 3A 3J 3E 3B 3C 3U 3YU 3L 3Q 3HP 3NY 3X 3D 3OE 3N 3R 3O 3AI 3Y 1DIGIT_ZERO 2ONE 2TWO 2THREE
2FOUR 2FIVE 2SIX 2SEVEN 2EIGHT 2NINE 1NUMBER_TEN 2ELEVEN 2TWELVE 2THIRTEEN 2FOURTEEN 2FIFTEEN
2SIXTEEN 2SEVENTEEN 2EIGHTEEN 2NINETEEN 1DIGIT_ONE_ALTERNATE_FORM 2TWO_ALTERNATE_FORM
2THREE_ALTERNATE_FORM 1COMMA 1FULL_STOP 1SYMBOL_AIVA 1EXCLAMATION_OH @16F00 0MIAO_LETTER_PA 2BA
2YI_PA 2PLA 2MA 2MHA 2ARCHAIC_MA 2FA 2VA 2VFA 2TA 2DA 2YI_TTA 3TA 2TTA 2DDA 2NA 2NHA 2YI_NNA
2ARCHAIC_NA 2NNA 2NNHA 2LA 2LYA 2LHA 2LHYA 2TLHA 2DLHA 2TLHYA 2DLHYA 2KA 2GA 2YI_KA 2QA 2QGA 2NGA
2NGHA 2ARCHAIC_NGA 2HA 2XA 2GHA 2GHHA 2TSSA 2DZZA 2NYA 2NYHA 2TSHA 2DZHA 2YI_TSHA 3DZHA
2REFORMED_TSHA 2SHA 2SSA 2ZHA 2ZSHA 2TSA 2DZA 2YI_TSA 2SA 2ZA 2ZSA 2ZZA 2ZZSA 2ARCHAIC_ZZA 2ZZYA
2ZZSYA 2WA 2AH 2HHA 2BRI 2SYI 2DZYI 2TE 2TSE 2RTE @16F4F 1SIGN_CONSONANT_MODIFIER_BAR
1LETTER_NASALIZATION 1SIGN_ASPIRATION 2REFORMED_VOICING 3ASPIRATION 1VOWEL_SIGN_A 3AA 3AHH 3AN
3ANG 3O 3OO 3WO 3W 3E 3EN 3ENG 3OEY 3I 3IA 3IAN 3IANG 3IO 3IE 3II 3IU 3ING 3U 3UA 3UAN 3UANG 3UU
3UEI 3UNG 3Y 3YI 3AE 3AEE 3ERR 3ROUNDED_ERR 3ER 3ROUNDED_ER 3AI 3EI 3AU 3OU 3N 3NG 3UOG 3YUI 3OG
3OER 3VW 3IG 3EA 3IONG 3UI @16F8F 1TONE_RIGHT 2TOP_RIGHT 2ABOVE 2BELOW 1LETTER_TONE-2 + + + + + +
2REFORMED_TONE-1 + 3TONE-4 + + 3TONE-8 @16FE0 0TANGUT_ITERATION_MARK 0NUSHU_ITERATION_MARK
0OLD_CHINESE_HOOK_MARK 2ITERATION_MARK 0KHITAN_SMALL_SCRIPT_FILLER @16FF0
0VIETNAMESE_ALTERNATE_READING_MARK_CA 4NHAY @18800 0TANGUT_COMPONENT-001 + + + + + + + + + + + + +
+ + + + + + + + + + + + + + + + + + + + + + + + + + + + + + + + + + + + + + + + + + + + + + + + +
+ + + + + + + + + + + + + + + + + + + + + + + + + + + + + + + + + + + + + + + + + + + + + + + + +
+ + + + + + + + + + + + + + + + + + + + + + + + + + + + + + + + + + + + + + + + + + + + + + + + +
+ + + + + + + + + + + + + + + + + + + + + + + + + + + + + + + + + + + + + + + + + + + + + + + + +
+ + + + + + + + + + + + + + + + + + + + + + + + + + + + + + + + + + + + + + + + + + + + + + + + +
+ + + + + + + + + + + + + + + + + + + + + + + + + + + + + + + + + + + + + + + + + + + + + + + + +
+ + + + + + + + + + + + + + + + + + + + + + + + + + + + + + + + + + + + + + + + + + + + + + + + +
+ + + + + + + + + + + + + + + + + + + + + + + + + + + + + + + + + + + + + + + + + + + + + + + + +
+ + + + + + + + + + + + + + + + + + + + + + + + + + + + + + + + + + + + + + + + + + + + + + + + +
+ + + + + + + + + + + + + + + + + + + + + + + + + + + + + + + + + + + + + + + + + + + + + + + + +
+ + + + + + + + + + + + + + + + + + + + + + + + + + + + + + + + + + + + + + + + + + + + + + + + +
+ + + + + + + + + + + + + + + + + + + + + + + + + + + + + + + + + + + + + + + + + + + + + + + + +
+ + + + + + + + + + + + + + + + + + + + + + + + + + + + + + + + + + + + + + + + + + + + + + + + +
+ + + + + + + + + + + + + + + + + + + + + + + + + + + + + + + + + + + + + + + + + + + + + + + + +
+ + + + + + + + + + + + + + + + + + + + + + + + + + + + + + + + + + + + + + + + + + + + + + + + +
+ + + + + + + + + + + + + + + + + + + @1AFF0 0KATAKANA_LETTER_MINNAN_TONE-2 + + + @1AFF5 3TONE-7 +
3NASALIZED_TONE-1 + + + + @1AFFD 4TONE-7 + @1B000 2ARCHAIC_E 0HIRAGANA_LETTER_ARCHAIC_YE
0HENTAIGANA_LETTER_A-1 + + 2A-WO 2I-1 + + + 2U-1 + + + + 2E-2 + + + + 2O-1 + + 2KA-1 + + + + + + +
+ 2KA-10 + 2KA-KE 2KI-1 + + + + + + + 2KU-1 + + + + + + 2KE-1 + + + + + 2KO-1 + + 2KO-KI 2SA-1 + +
+ + + + + 2SI-1 + + + + + 2SU-1 + + + + + + + 2SE-1 + + + + 2SO-1 + + + + + + 2TA-1 + + + 2TI-1 +
+ + + + + 2TU-1 + + + 2TU-TO 2TE-1 + + + + + + + + 2TO-1 + + + + + 2TO-RA 2NA-1 + + + + + + + +
2NI-1 + + + + + + 2NI-TE 2NU-1 + + 2NE-1 + + + + + 2NE-KO 2NO-1 + + + + 2HA-1 + + + + + + + +
2HA-10 + 2HI-1 + + + + + + 2HU-1 + + 2HE-1 + + + + + + 2HO-1 + + + + + + + 2MA-1 + + + + + + 2MI-1
+ + + + + + 2MU-1 + + + 2ME-1 + 2ME-MA 2MO-1 + + + + + 2YA-1 + + + + 2YA-YO 2YU-1 + + + 2YO-1 + +
+ + + 2RA-1 + + + 2RI-1 + + + + + + 2RU-1 + + + + + 2RE-1 + + + 2RO-1 + + + + + 2WA-1 + + + +
2WI-1 + + + + 2WE-1 + + + 2WO-1 + + + + + + 2N-MU-MO-1 + 0HIRAGANA_LETTER_ARCHAIC_WU
0KATAKANA_LETTER_ARCHAIC_YI 3YE 3WU @1B150 0HIRAGANA_LETTER_SMALL_WI 3WE 3WO @1B164
0KATAKANA_LETTER_SMALL_WI 3WE 3WO 3N @1BC00 0DUPLOYAN_LETTER_H 2X 2P 2T 2F 2K 2L 2B 2D 2V 2G 2R
2P_N 2D_S 2F_N 2K_M 2R_S 2TH 2SLOAN_DH 2DH 2KK 2SLOAN_J 2HL 2LH 2RH 2M 2N 2J 2S 2M_N 2N_M 2J_M
2S_J 2M_WITH_DOT 2N_WITH_DOT 2J_WITH_DOT 4DOTS_INSIDE_AND_ABOVE 2S_WITH_DOT 5BELOW 2M_S 2N_S 2J_S
2S_S 2M_N_S 2N_M_S 2J_M_S 2S_J_S 2J_S_WITH_DOT 3N 4S 2S_T 4R 3P 4R 2T_S 3R_S 2W 2WH 2W_R 2S_N 3M
2K_R_S 2G_R_S 2S_K 4R 2A 2SLOAN_OW 2OA 2O 2AOU 2I 2E 2IE 2SHORT_I 2UI 2EE 2SLOAN_EH 2ROMANIAN_I
2SLOAN_EE 2LONG_I 2YE 2U 2EU 2XW 2U_N 2LONG_U 2ROMANIAN_U 2UH 2SLOAN_U 2OOH 2OW 2OU 2WA 2WO 2WI
2WEI 2WOW 2NASAL_U 3O 3I 3A 2PERNIN_AN 3AM 2SLOAN_EN 3AN 3ON 2VOCALIC_M @1BC70
1AFFIX_LEFT_HORIZONTAL_SECANT 2MID_HORIZONTAL_SECANT 2RIGHT_HORIZONTAL_SECANT 2LOW_VERTICAL_SECANT
2MID_VERTICAL_SECANT 2HIGH_VERTICAL_SECANT 2ATTACHED_SECANT 3LEFT-TO-RIGHT_SECANT 3TANGENT 3TAIL
3E_HOOK 3I_HOOK 3TANGENT_HOOK @1BC80 2HIGH_ACUTE 3TIGHT_ACUTE 3GRAVE 3LONG_GRAVE 3DOT 3CIRCLE
3LINE 3WAVE 3VERTICAL @1BC90 2LOW_ACUTE 3TIGHT_ACUTE 3GRAVE 3LONG_GRAVE 3DOT 3CIRCLE 3LINE 3WAVE
3VERTICAL 3ARROW @1BC9C 1SIGN_O_WITH_CROSS 1THICK_LETTER_SELECTOR 1DOUBLE_MARK
1PUNCTUATION_CHINOOK_FULL_STOP 0SHORTHAND_FORMAT_LETTER_OVERLAP 2CONTINUING_OVERLAP 2DOWN_STEP
2UP_STEP"

end Rubric.Text.CharacterName
