/-!
# Character names: eastern

The names of the scripts and forms from U+3000 to U+FFFF, in the notation of the table of
character names.
-/

namespace Rubric.Text.CharacterName

/-- The names of the scripts and forms from U+3000 to U+FFFF. -/
def eastern : String := "
@3000 0IDEOGRAPHIC_SPACE 1COMMA 1FULL_STOP 0DITTO_MARK 0JAPANESE_INDUSTRIAL_STANDARD_SYMBOL
0IDEOGRAPHIC_ITERATION_MARK 1CLOSING_MARK 1NUMBER_ZERO 0LEFT_ANGLE_BRACKET 0RIGHT_ANGLE_BRACKET
0LEFT_DOUBLE_ANGLE_BRACKET 0RIGHT_DOUBLE_ANGLE_BRACKET 0LEFT_CORNER_BRACKET 0RIGHT_CORNER_BRACKET
0LEFT_WHITE_CORNER_BRACKET 0RIGHT_WHITE_CORNER_BRACKET 0LEFT_BLACK_LENTICULAR_BRACKET
0RIGHT_BLACK_LENTICULAR_BRACKET 0POSTAL_MARK 0GETA_MARK 0LEFT_TORTOISE_SHELL_BRACKET
0RIGHT_TORTOISE_SHELL_BRACKET 0LEFT_WHITE_LENTICULAR_BRACKET 0RIGHT_WHITE_LENTICULAR_BRACKET
0LEFT_WHITE_TORTOISE_SHELL_BRACKET 0RIGHT_WHITE_TORTOISE_SHELL_BRACKET 0LEFT_WHITE_SQUARE_BRACKET
0RIGHT_WHITE_SQUARE_BRACKET 0WAVE_DASH 0REVERSED_DOUBLE_PRIME_QUOTATION_MARK
0DOUBLE_PRIME_QUOTATION_MARK 0LOW_DOUBLE_PRIME_QUOTATION_MARK 0POSTAL_MARK_FACE
0HANGZHOU_NUMERAL_ONE 2TWO 2THREE 2FOUR 2FIVE 2SIX 2SEVEN 2EIGHT 2NINE
0IDEOGRAPHIC_LEVEL_TONE_MARK 1RISING_TONE_MARK 1DEPARTING_TONE_MARK 1ENTERING_TONE_MARK
0HANGUL_SINGLE_DOT_TONE_MARK 1DOUBLE_DOT_TONE_MARK 0WAVY_DASH 0VERTICAL_KANA_REPEAT_MARK
3WITH_VOICED_SOUND_MARK 3MARK_UPPER_HALF 3WITH_VOICED_SOUND_MARK_UPPER_HALF 3MARK_LOWER_HALF
0CIRCLED_POSTAL_MARK 0IDEOGRAPHIC_TELEGRAPH_LINE_FEED_SEPARATOR_SYMBOL 0HANGZHOU_NUMERAL_TEN
2TWENTY 2THIRTY 0VERTICAL_IDEOGRAPHIC_ITERATION_MARK 0MASU_MARK 0PART_ALTERNATION_MARK
0IDEOGRAPHIC_VARIATION_INDICATOR 1HALF_FILL_SPACE @3041 0HIRAGANA_LETTER_SMALL_A 2A 2SMALL_I 2I
2SMALL_U 2U 2SMALL_E 2E 2SMALL_O 2O 2KA 2GA 2KI 2GI 2KU 2GU 2KE 2GE 2KO 2GO 2SA 2ZA 2SI 2ZI 2SU
2ZU 2SE 2ZE 2SO 2ZO 2TA 2DA 2TI 2DI 2SMALL_TU 2TU 2DU 2TE 2DE 2TO 2DO 2NA 2NI 2NU 2NE 2NO 2HA 2BA
2PA 2HI 2BI 2PI 2HU 2BU 2PU 2HE 2BE 2PE 2HO 2BO 2PO 2MA 2MI 2MU 2ME 2MO 2SMALL_YA 2YA 2SMALL_YU
2YU 2SMALL_YO 2YO 2RA 2RI 2RU 2RE 2RO 2SMALL_WA 2WA 2WI 2WE 2WO 2N 2VU 2SMALL_KA 3KE @3099
0COMBINING_KATAKANA-HIRAGANA_VOICED_SOUND_MARK 2SEMI-VOICED_SOUND_MARK
0KATAKANA-HIRAGANA_VOICED_SOUND_MARK 1SEMI-VOICED_SOUND_MARK 0HIRAGANA_ITERATION_MARK
1VOICED_ITERATION_MARK 1DIGRAPH_YORI 0KATAKANA-HIRAGANA_DOUBLE_HYPHEN 0KATAKANA_LETTER_SMALL_A 2A
2SMALL_I 2I 2SMALL_U 2U 2SMALL_E 2E 2SMALL_O 2O 2KA 2GA 2KI 2GI 2KU 2GU 2KE 2GE 2KO 2GO 2SA 2ZA
2SI 2ZI 2SU 2ZU 2SE 2ZE 2SO 2ZO 2TA 2DA 2TI 2DI 2SMALL_TU 2TU 2DU 2TE 2DE 2TO 2DO 2NA 2NI 2NU 2NE
2NO 2HA 2BA 2PA 2HI 2BI 2PI 2HU 2BU 2PU 2HE 2BE 2PE 2HO 2BO 2PO 2MA 2MI 2MU 2ME 2MO 2SMALL_YA 2YA
2SMALL_YU 2YU 2SMALL_YO 2YO 2RA 2RI 2RU 2RE 2RO 2SMALL_WA 2WA 2WI 2WE 2WO 2N 2VU 2SMALL_KA 3KE 2VA
2VI 2VE 2VO 1MIDDLE_DOT 0KATAKANA-HIRAGANA_PROLONGED_SOUND_MARK 0KATAKANA_ITERATION_MARK
1VOICED_ITERATION_MARK 1DIGRAPH_KOTO @3105 0BOPOMOFO_LETTER_B 2P 2M 2F 2D 2T 2N 2L 2G 2K 2H 2J 2Q
2X 2ZH 2CH 2SH 2R 2Z 2C 2S 2A 2O 2E 2EH 2AI 2EI 2AU 2OU 2AN 2EN 2ANG 2ENG 2ER 2I 2U 2IU 2V 2NG 2GN
2IH 2O_WITH_DOT_ABOVE 2NN @3131 0HANGUL_LETTER_KIYEOK 2SSANGKIYEOK 2KIYEOK-SIOS 2NIEUN
2NIEUN-CIEUC 2NIEUN-HIEUH 2TIKEUT 2SSANGTIKEUT 2RIEUL 2RIEUL-KIYEOK 2RIEUL-MIEUM 2RIEUL-PIEUP
2RIEUL-SIOS 2RIEUL-THIEUTH 2RIEUL-PHIEUPH 2RIEUL-HIEUH 2MIEUM 2PIEUP 2SSANGPIEUP 2PIEUP-SIOS 2SIOS
2SSANGSIOS 2IEUNG 2CIEUC 2SSANGCIEUC 2CHIEUCH 2KHIEUKH 2THIEUTH 2PHIEUPH 2HIEUH 2A 2AE 2YA 2YAE
2EO 2E 2YEO 2YE 2O 2WA 2WAE 2OE 2YO 2U 2WEO 2WE 2WI 2YU 2EU 2YI 2I 1FILLER 1LETTER_SSANGNIEUN
2NIEUN-TIKEUT 2NIEUN-SIOS 2NIEUN-PANSIOS 2RIEUL-KIYEOK-SIOS 2RIEUL-TIKEUT 2RIEUL-PIEUP-SIOS
2RIEUL-PANSIOS 2RIEUL-YEORINHIEUH 2MIEUM-PIEUP 2MIEUM-SIOS 2MIEUM-PANSIOS 2KAPYEOUNMIEUM
2PIEUP-KIYEOK 2PIEUP-TIKEUT 2PIEUP-SIOS-KIYEOK 2PIEUP-SIOS-TIKEUT 2PIEUP-CIEUC 2PIEUP-THIEUTH
2KAPYEOUNPIEUP 2KAPYEOUNSSANGPIEUP 2SIOS-KIYEOK 2SIOS-NIEUN 2SIOS-TIKEUT 2SIOS-PIEUP 2SIOS-CIEUC
2PANSIOS 2SSANGIEUNG 2YESIEUNG 2YESIEUNG-SIOS 2YESIEUNG-PANSIOS 2KAPYEOUNPHIEUPH 2SSANGHIEUH
2YEORINHIEUH 2YO-YA 2YO-YAE 2YO-I 2YU-YEO 2YU-YE 2YU-I 2ARAEA 2ARAEAE @3190
0IDEOGRAPHIC_ANNOTATION_LINKING_MARK 2REVERSE_MARK 2ONE_MARK 2TWO_MARK 2THREE_MARK 2FOUR_MARK
2TOP_MARK 2MIDDLE_MARK 2BOTTOM_MARK 2FIRST_MARK 2SECOND_MARK 2THIRD_MARK 2FOURTH_MARK 2HEAVEN_MARK
2EARTH_MARK 2MAN_MARK 0BOPOMOFO_LETTER_BU 2ZI 2JI 2GU 2EE 2ENN 2OO 2ONN 2IR 2ANN 2INN 2UNN 2IM
2NGG 2AINN 2AUNN 2AM 2OM 2ONG 2INNN 1FINAL_LETTER_P 3T 3K 3H 1LETTER_GH 2LH 2ZY 1FINAL_LETTER_G
1LETTER_GW 2KW 2OE 2AH 0CJK_STROKE_T 2WG 2XG 2BXG 2SW 2HZZ 2HZG 2HP 2HZWG 2SZWG 2HZT 2HZZP 2HPWG
2HZW 2HZZZ 2N 2H 2S 2P 2SP 2D 2HZ 2HG 2SZ 2SWZ 2ST 2SG 2PD 2PZ 2TN 2SZZ 2SWG 2HXWG 2HZZZG 2PG 2Q
@31F0 0KATAKANA_LETTER_SMALL_KU 3SI 3SU 3TO 3NU 3HA 3HI 3HU 3HE 3HO 3MU 3RA 3RI 3RU 3RE 3RO
0PARENTHESIZED_HANGUL_KIYEOK 2NIEUN 2TIKEUT 2RIEUL 2MIEUM 2PIEUP 2SIOS 2IEUNG 2CIEUC 2CHIEUCH
2KHIEUKH 2THIEUTH 2PHIEUPH 2HIEUH 2KIYEOK_A 2NIEUN_A 2TIKEUT_A 2RIEUL_A 2MIEUM_A 2PIEUP_A 2SIOS_A
2IEUNG_A 2CIEUC_A 2CHIEUCH_A 2KHIEUKH_A 2THIEUTH_A 2PHIEUPH_A 2HIEUH_A 2CIEUC_U
1KOREAN_CHARACTER_OJEON 3O_HU @3220 1IDEOGRAPH_ONE 2TWO 2THREE 2FOUR 2FIVE 2SIX 2SEVEN 2EIGHT
2NINE 2TEN 2MOON 2FIRE 2WATER 2WOOD 2METAL 2EARTH 2SUN 2STOCK 2HAVE 2SOCIETY 2NAME 2SPECIAL
2FINANCIAL 2CONGRATULATION 2LABOR 2REPRESENT 2CALL 2STUDY 2SUPERVISE 2ENTERPRISE 2RESOURCE
2ALLIANCE 2FESTIVAL 2REST 2SELF 2REACH 0CIRCLED_IDEOGRAPH_QUESTION 2KINDERGARTEN 2SCHOOL 2KOTO
1NUMBER_TEN_ON_BLACK_SQUARE 2TWENTY_ON_BLACK_SQUARE 2THIRTY_ON_BLACK_SQUARE 2FORTY_ON_BLACK_SQUARE
2FIFTY_ON_BLACK_SQUARE 2SIXTY_ON_BLACK_SQUARE 2SEVENTY_ON_BLACK_SQUARE 2EIGHTY_ON_BLACK_SQUARE
0PARTNERSHIP_SIGN 0CIRCLED_NUMBER_TWENTY_ONE 3TWO 3THREE 3FOUR 3FIVE 3SIX 3SEVEN 3EIGHT 3NINE
2THIRTY 3ONE 3TWO 3THREE 3FOUR 3FIVE 1HANGUL_KIYEOK 2NIEUN 2TIKEUT 2RIEUL 2MIEUM 2PIEUP 2SIOS
2IEUNG 2CIEUC 2CHIEUCH 2KHIEUKH 2THIEUTH 2PHIEUPH 2HIEUH 2KIYEOK_A 2NIEUN_A 2TIKEUT_A 2RIEUL_A
2MIEUM_A 2PIEUP_A 2SIOS_A 2IEUNG_A 2CIEUC_A 2CHIEUCH_A 2KHIEUKH_A 2THIEUTH_A 2PHIEUPH_A 2HIEUH_A
1KOREAN_CHARACTER_CHAMKO 3JUEUI 1HANGUL_IEUNG_U 0KOREAN_STANDARD_SYMBOL 0CIRCLED_IDEOGRAPH_ONE
2TWO 2THREE 2FOUR 2FIVE 2SIX 2SEVEN 2EIGHT 2NINE 2TEN 2MOON 2FIRE 2WATER 2WOOD 2METAL 2EARTH 2SUN
2STOCK 2HAVE 2SOCIETY 2NAME 2SPECIAL 2FINANCIAL 2CONGRATULATION 2LABOR 2SECRET 2MALE 2FEMALE
2SUITABLE 2EXCELLENT 2PRINT 2ATTENTION 2ITEM 2REST 2COPY 2CORRECT 2HIGH 2CENTRE 2LOW 2LEFT 2RIGHT
2MEDICINE 2RELIGION 2STUDY 2SUPERVISE 2ENTERPRISE 2RESOURCE 2ALLIANCE 2NIGHT 1NUMBER_THIRTY_SIX
3SEVEN 3EIGHT 3NINE 2FORTY 3ONE 3TWO 3THREE 3FOUR 3FIVE 3SIX 3SEVEN 3EIGHT 3NINE 2FIFTY
0IDEOGRAPHIC_TELEGRAPH_SYMBOL_FOR_JANUARY 4FEBRUARY 4MARCH 4APRIL 4MAY 4JUNE 4JULY 4AUGUST
4SEPTEMBER 4OCTOBER 4NOVEMBER 4DECEMBER 0SQUARE_HG 1ERG 1EV 0LIMITED_LIABILITY_SIGN
0CIRCLED_KATAKANA_A 2I 2U 2E 2O 2KA 2KI 2KU 2KE 2KO 2SA 2SI 2SU 2SE 2SO 2TA 2TI 2TU 2TE 2TO 2NA
2NI 2NU 2NE 2NO 2HA 2HI 2HU 2HE 2HO 2MA 2MI 2MU 2ME 2MO 2YA 2YU 2YO 2RA 2RI 2RU 2RE 2RO 2WA 2WI
2WE 2WO 0SQUARE_ERA_NAME_REIWA 1APAATO 1ARUHUA 1ANPEA 1AARU 1ININGU 1INTI 1UON 1ESUKUUDO 1EEKAA
1ONSU 1OOMU 1KAIRI 1KARATTO 1KARORII 1GARON 1GANMA 1GIGA 1GINII 1KYURII 1GIRUDAA 1KIRO 1KIROGURAMU
1KIROMEETORU 1KIROWATTO 1GURAMU 1GURAMUTON 1KURUZEIRO 1KUROONE 1KEESU 1KORUNA 1KOOPO 1SAIKURU
1SANTIIMU 1SIRINGU 1SENTI 1SENTO 1DAASU 1DESI 1DORU 1TON 1NANO 1NOTTO 1HAITU 1PAASENTO 1PAATU
1BAARERU 1PIASUTORU 1PIKURU 1PIKO 1BIRU 1HUARADDO 1HUIITO 1BUSSYERU 1HURAN 1HEKUTAARU 1PESO
1PENIHI 1HERUTU 1PENSU 1PEEZI 1BEETA 1POINTO 1BORUTO 1HON 1PONDO 1HOORU 1HOON 1MAIKURO 1MAIRU
1MAHHA 1MARUKU 1MANSYON 1MIKURON 1MIRI 1MIRIBAARU 1MEGA 1MEGATON 1MEETORU 1YAADO 1YAARU 1YUAN
1RITTORU 1RIRA 1RUPII 1RUUBURU 1REMU 1RENTOGEN 1WATTO 0IDEOGRAPHIC_TELEGRAPH_SYMBOL_FOR_HOUR_ZERO
5ONE 5TWO 5THREE 5FOUR 5FIVE 5SIX 5SEVEN 5EIGHT 5NINE 5TEN 5ELEVEN 5TWELVE 5THIRTEEN 5FOURTEEN
5FIFTEEN 5SIXTEEN 5SEVENTEEN 5EIGHTEEN 5NINETEEN 5TWENTY 5TWENTY-ONE 5TWENTY-TWO 5TWENTY-THREE
5TWENTY-FOUR 0SQUARE_HPA 1DA 1AU 1BAR 1OV 1PC 1DM 2SQUARED 2CUBED 1IU 1ERA_NAME_HEISEI 3SYOUWA
3TAISYOU 3MEIZI 1CORPORATION 1PA_AMPS 1NA 1MU_A 1MA 1KA 1KB 1MB 1GB 1CAL 1KCAL 1PF 1NF 1MU_F 2G
1MG 1KG 1HZ 1KHZ 1MHZ 1GHZ 1THZ 1MU_L 1ML 1DL 1KL 1FM 1NM 1MU_M 1MM 1CM 1KM 1MM_SQUARED
1CM_SQUARED 1M_SQUARED 1KM_SQUARED 1MM_CUBED 1CM_CUBED 1M_CUBED 1KM_CUBED 1M_OVER_S 4SQUARED 1PA
1KPA 1MPA 1GPA 1RAD 2OVER_S 4SQUARED 1PS 1NS 1MU_S 1MS 1PV 1NV 1MU_V 1MV 1KV 1MV_MEGA 1PW 1NW
1MU_W 1MW 1KW 1MW_MEGA 1K_OHM 1M_OHM 1AM 1BQ 1CC 1CD 1C_OVER_KG 1CO 1DB 1GY 1HA 1HP 1IN 1KK
1KM_CAPITAL 1KT 1LM 1LN 1LOG 1LX 1MB_SMALL 1MIL 1MOL 1PH 1PM 1PPM 1PR 1SR 1SV 1WB 1V_OVER_M
1A_OVER_M 0IDEOGRAPHIC_TELEGRAPH_SYMBOL_FOR_DAY_ONE 5TWO 5THREE 5FOUR 5FIVE 5SIX 5SEVEN 5EIGHT
5NINE 5TEN 5ELEVEN 5TWELVE 5THIRTEEN 5FOURTEEN 5FIFTEEN 5SIXTEEN 5SEVENTEEN 5EIGHTEEN 5NINETEEN
5TWENTY 5TWENTY-ONE 5TWENTY-TWO 5TWENTY-THREE 5TWENTY-FOUR 5TWENTY-FIVE 5TWENTY-SIX 5TWENTY-SEVEN
5TWENTY-EIGHT 5TWENTY-NINE 5THIRTY 5THIRTY-ONE 0SQUARE_GAL @4DC0 0HEXAGRAM_FOR_THE_CREATIVE_HEAVEN
3RECEPTIVE_EARTH 2DIFFICULTY_AT_THE_BEGINNING 2YOUTHFUL_FOLLY 2WAITING 2CONFLICT 2THE_ARMY
2HOLDING_TOGETHER 2SMALL_TAMING 2TREADING 2PEACE 2STANDSTILL 2FELLOWSHIP 2GREAT_POSSESSION
2MODESTY 2ENTHUSIASM 2FOLLOWING 2WORK_ON_THE_DECAYED 2APPROACH 2CONTEMPLATION 2BITING_THROUGH
2GRACE 2SPLITTING_APART 2RETURN 2INNOCENCE 2GREAT_TAMING 2MOUTH_CORNERS 2GREAT_PREPONDERANCE
2THE_ABYSMAL_WATER 3CLINGING_FIRE 2INFLUENCE 2DURATION 2RETREAT 2GREAT_POWER 2PROGRESS
2DARKENING_OF_THE_LIGHT 2THE_FAMILY 2OPPOSITION 2OBSTRUCTION 2DELIVERANCE 2DECREASE 2INCREASE
2BREAKTHROUGH 2COMING_TO_MEET 2GATHERING_TOGETHER 2PUSHING_UPWARD 2OPPRESSION 2THE_WELL
2REVOLUTION 2THE_CAULDRON 3AROUSING_THUNDER 3KEEPING_STILL_MOUNTAIN 2DEVELOPMENT
2THE_MARRYING_MAIDEN 2ABUNDANCE 2THE_WANDERER 3GENTLE_WIND 3JOYOUS_LAKE 2DISPERSION 2LIMITATION
2INNER_TRUTH 2SMALL_PREPONDERANCE 2AFTER_COMPLETION 2BEFORE_COMPLETION @A000 0YI_SYLLABLE_IT 2IX
2I 2IP 2IET 2IEX 2IE 2IEP 2AT 2AX 2A 2AP 2UOX 2UO 2UOP 2OT 2OX 2O 2OP 2EX 2E 2WU 2BIT 2BIX 2BI
2BIP 2BIET 2BIEX 2BIE 2BIEP 2BAT 2BAX 2BA 2BAP 2BUOX 2BUO 2BUOP 2BOT 2BOX 2BO 2BOP 2BEX 2BE 2BEP
2BUT 2BUX 2BU 2BUP 2BURX 2BUR 2BYT 2BYX 2BY 2BYP 2BYRX 2BYR 2PIT 2PIX 2PI 2PIP 2PIEX 2PIE 2PIEP
2PAT 2PAX 2PA 2PAP 2PUOX 2PUO 2PUOP 2POT 2POX 2PO 2POP 2PUT 2PUX 2PU 2PUP 2PURX 2PUR 2PYT 2PYX 2PY
2PYP 2PYRX 2PYR 2BBIT 2BBIX 2BBI 2BBIP 2BBIET 2BBIEX 2BBIE 2BBIEP 2BBAT 2BBAX 2BBA 2BBAP 2BBUOX
2BBUO 2BBUOP 2BBOT 2BBOX 2BBO 2BBOP 2BBEX 2BBE 2BBEP 2BBUT 2BBUX 2BBU 2BBUP 2BBURX 2BBUR 2BBYT
2BBYX 2BBY 2BBYP 2NBIT 2NBIX 2NBI 2NBIP 2NBIEX 2NBIE 2NBIEP 2NBAT 2NBAX 2NBA 2NBAP 2NBOT 2NBOX
2NBO 2NBOP 2NBUT 2NBUX 2NBU 2NBUP 2NBURX 2NBUR 2NBYT 2NBYX 2NBY 2NBYP 2NBYRX 2NBYR 2HMIT 2HMIX
2HMI 2HMIP 2HMIEX 2HMIE 2HMIEP 2HMAT 2HMAX 2HMA 2HMAP 2HMUOX 2HMUO 2HMUOP 2HMOT 2HMOX 2HMO 2HMOP
2HMUT 2HMUX 2HMU 2HMUP 2HMURX 2HMUR 2HMYX 2HMY 2HMYP 2HMYRX 2HMYR 2MIT 2MIX 2MI 2MIP 2MIEX 2MIE
2MIEP 2MAT 2MAX 2MA 2MAP 2MUOT 2MUOX 2MUO 2MUOP 2MOT 2MOX 2MO 2MOP 2MEX 2ME 2MUT 2MUX 2MU 2MUP
2MURX 2MUR 2MYT 2MYX 2MY 2MYP 2FIT 2FIX 2FI 2FIP 2FAT 2FAX 2FA 2FAP 2FOX 2FO 2FOP 2FUT 2FUX 2FU
2FUP 2FURX 2FUR 2FYT 2FYX 2FY 2FYP 2VIT 2VIX 2VI 2VIP 2VIET 2VIEX 2VIE 2VIEP 2VAT 2VAX 2VA 2VAP
2VOT 2VOX 2VO 2VOP 2VEX 2VEP 2VUT 2VUX 2VU 2VUP 2VURX 2VUR 2VYT 2VYX 2VY 2VYP 2VYRX 2VYR 2DIT 2DIX
2DI 2DIP 2DIEX 2DIE 2DIEP 2DAT 2DAX 2DA 2DAP 2DUOX 2DUO 2DOT 2DOX 2DO 2DOP 2DEX 2DE 2DEP 2DUT 2DUX
2DU 2DUP 2DURX 2DUR 2TIT 2TIX 2TI 2TIP 2TIEX 2TIE 2TIEP 2TAT 2TAX 2TA 2TAP 2TUOT 2TUOX 2TUO 2TUOP
2TOT 2TOX 2TO 2TOP 2TEX 2TE 2TEP 2TUT 2TUX 2TU 2TUP 2TURX 2TUR 2DDIT 2DDIX 2DDI 2DDIP 2DDIEX 2DDIE
2DDIEP 2DDAT 2DDAX 2DDA 2DDAP 2DDUOX 2DDUO 2DDUOP 2DDOT 2DDOX 2DDO 2DDOP 2DDEX 2DDE 2DDEP 2DDUT
2DDUX 2DDU 2DDUP 2DDURX 2DDUR 2NDIT 2NDIX 2NDI 2NDIP 2NDIEX 2NDIE 2NDAT 2NDAX 2NDA 2NDAP 2NDOT
2NDOX 2NDO 2NDOP 2NDEX 2NDE 2NDEP 2NDUT 2NDUX 2NDU 2NDUP 2NDURX 2NDUR 2HNIT 2HNIX 2HNI 2HNIP
2HNIET 2HNIEX 2HNIE 2HNIEP 2HNAT 2HNAX 2HNA 2HNAP 2HNUOX 2HNUO 2HNOT 2HNOX 2HNOP 2HNEX 2HNE 2HNEP
2HNUT 2NIT 2NIX 2NI 2NIP 2NIEX 2NIE 2NIEP 2NAX 2NA 2NAP 2NUOX 2NUO 2NUOP 2NOT 2NOX 2NO 2NOP 2NEX
2NE 2NEP 2NUT 2NUX 2NU 2NUP 2NURX 2NUR 2HLIT 2HLIX 2HLI 2HLIP 2HLIEX 2HLIE 2HLIEP 2HLAT 2HLAX 2HLA
2HLAP 2HLUOX 2HLUO 2HLUOP 2HLOX 2HLO 2HLOP 2HLEX 2HLE 2HLEP 2HLUT 2HLUX 2HLU 2HLUP 2HLURX 2HLUR
2HLYT 2HLYX 2HLY 2HLYP 2HLYRX 2HLYR 2LIT 2LIX 2LI 2LIP 2LIET 2LIEX 2LIE 2LIEP 2LAT 2LAX 2LA 2LAP
2LUOT 2LUOX 2LUO 2LUOP 2LOT 2LOX 2LO 2LOP 2LEX 2LE 2LEP 2LUT 2LUX 2LU 2LUP 2LURX 2LUR 2LYT 2LYX
2LY 2LYP 2LYRX 2LYR 2GIT 2GIX 2GI 2GIP 2GIET 2GIEX 2GIE 2GIEP 2GAT 2GAX 2GA 2GAP 2GUOT 2GUOX 2GUO
2GUOP 2GOT 2GOX 2GO 2GOP 2GET 2GEX 2GE 2GEP 2GUT 2GUX 2GU 2GUP 2GURX 2GUR 2KIT 2KIX 2KI 2KIP 2KIEX
2KIE 2KIEP 2KAT 2KAX 2KA 2KAP 2KUOX 2KUO 2KUOP 2KOT 2KOX 2KO 2KOP 2KET 2KEX 2KE 2KEP 2KUT 2KUX 2KU
2KUP 2KURX 2KUR 2GGIT 2GGIX 2GGI 2GGIEX 2GGIE 2GGIEP 2GGAT 2GGAX 2GGA 2GGAP 2GGUOT 2GGUOX 2GGUO
2GGUOP 2GGOT 2GGOX 2GGO 2GGOP 2GGET 2GGEX 2GGE 2GGEP 2GGUT 2GGUX 2GGU 2GGUP 2GGURX 2GGUR 2MGIEX
2MGIE 2MGAT 2MGAX 2MGA 2MGAP 2MGUOX 2MGUO 2MGUOP 2MGOT 2MGOX 2MGO 2MGOP 2MGEX 2MGE 2MGEP 2MGUT
2MGUX 2MGU 2MGUP 2MGURX 2MGUR 2HXIT 2HXIX 2HXI 2HXIP 2HXIET 2HXIEX 2HXIE 2HXIEP 2HXAT 2HXAX 2HXA
2HXAP 2HXUOT 2HXUOX 2HXUO 2HXUOP 2HXOT 2HXOX 2HXO 2HXOP 2HXEX 2HXE 2HXEP 2NGIEX 2NGIE 2NGIEP 2NGAT
2NGAX 2NGA 2NGAP 2NGUOT 2NGUOX 2NGUO 2NGOT 2NGOX 2NGO 2NGOP 2NGEX 2NGE 2NGEP 2HIT 2HIEX 2HIE 2HAT
2HAX 2HA 2HAP 2HUOT 2HUOX 2HUO 2HUOP 2HOT 2HOX 2HO 2HOP 2HEX 2HE 2HEP 2WAT 2WAX 2WA 2WAP 2WUOX
2WUO 2WUOP 2WOX 2WO 2WOP 2WEX 2WE 2WEP 2ZIT 2ZIX 2ZI 2ZIP 2ZIEX 2ZIE 2ZIEP 2ZAT 2ZAX 2ZA 2ZAP
2ZUOX 2ZUO 2ZUOP 2ZOT 2ZOX 2ZO 2ZOP 2ZEX 2ZE 2ZEP 2ZUT 2ZUX 2ZU 2ZUP 2ZURX 2ZUR 2ZYT 2ZYX 2ZY 2ZYP
2ZYRX 2ZYR 2CIT 2CIX 2CI 2CIP 2CIET 2CIEX 2CIE 2CIEP 2CAT 2CAX 2CA 2CAP 2CUOX 2CUO 2CUOP 2COT 2COX
2CO 2COP 2CEX 2CE 2CEP 2CUT 2CUX 2CU 2CUP 2CURX 2CUR 2CYT 2CYX 2CY 2CYP 2CYRX 2CYR 2ZZIT 2ZZIX
2ZZI 2ZZIP 2ZZIET 2ZZIEX 2ZZIE 2ZZIEP 2ZZAT 2ZZAX 2ZZA 2ZZAP 2ZZOX 2ZZO 2ZZOP 2ZZEX 2ZZE 2ZZEP
2ZZUX 2ZZU 2ZZUP 2ZZURX 2ZZUR 2ZZYT 2ZZYX 2ZZY 2ZZYP 2ZZYRX 2ZZYR 2NZIT 2NZIX 2NZI 2NZIP 2NZIEX
2NZIE 2NZIEP 2NZAT 2NZAX 2NZA 2NZAP 2NZUOX 2NZUO 2NZOX 2NZOP 2NZEX 2NZE 2NZUX 2NZU 2NZUP 2NZURX
2NZUR 2NZYT 2NZYX 2NZY 2NZYP 2NZYRX 2NZYR 2SIT 2SIX 2SI 2SIP 2SIEX 2SIE 2SIEP 2SAT 2SAX 2SA 2SAP
2SUOX 2SUO 2SUOP 2SOT 2SOX 2SO 2SOP 2SEX 2SE 2SEP 2SUT 2SUX 2SU 2SUP 2SURX 2SUR 2SYT 2SYX 2SY 2SYP
2SYRX 2SYR 2SSIT 2SSIX 2SSI 2SSIP 2SSIEX 2SSIE 2SSIEP 2SSAT 2SSAX 2SSA 2SSAP 2SSOT 2SSOX 2SSO
2SSOP 2SSEX 2SSE 2SSEP 2SSUT 2SSUX 2SSU 2SSUP 2SSYT 2SSYX 2SSY 2SSYP 2SSYRX 2SSYR 2ZHAT 2ZHAX 2ZHA
2ZHAP 2ZHUOX 2ZHUO 2ZHUOP 2ZHOT 2ZHOX 2ZHO 2ZHOP 2ZHET 2ZHEX 2ZHE 2ZHEP 2ZHUT 2ZHUX 2ZHU 2ZHUP
2ZHURX 2ZHUR 2ZHYT 2ZHYX 2ZHY 2ZHYP 2ZHYRX 2ZHYR 2CHAT 2CHAX 2CHA 2CHAP 2CHUOT 2CHUOX 2CHUO 2CHUOP
2CHOT 2CHOX 2CHO 2CHOP 2CHET 2CHEX 2CHE 2CHEP 2CHUX 2CHU 2CHUP 2CHURX 2CHUR 2CHYT 2CHYX 2CHY 2CHYP
2CHYRX 2CHYR 2RRAX 2RRA 2RRUOX 2RRUO 2RROT 2RROX 2RRO 2RROP 2RRET 2RREX 2RRE 2RREP 2RRUT 2RRUX
2RRU 2RRUP 2RRURX 2RRUR 2RRYT 2RRYX 2RRY 2RRYP 2RRYRX 2RRYR 2NRAT 2NRAX 2NRA 2NRAP 2NROX 2NRO
2NROP 2NRET 2NREX 2NRE 2NREP 2NRUT 2NRUX 2NRU 2NRUP 2NRURX 2NRUR 2NRYT 2NRYX 2NRY 2NRYP 2NRYRX
2NRYR 2SHAT 2SHAX 2SHA 2SHAP 2SHUOX 2SHUO 2SHUOP 2SHOT 2SHOX 2SHO 2SHOP 2SHET 2SHEX 2SHE 2SHEP
2SHUT 2SHUX 2SHU 2SHUP 2SHURX 2SHUR 2SHYT 2SHYX 2SHY 2SHYP 2SHYRX 2SHYR 2RAT 2RAX 2RA 2RAP 2RUOX
2RUO 2RUOP 2ROT 2ROX 2RO 2ROP 2REX 2RE 2REP 2RUT 2RUX 2RU 2RUP 2RURX 2RUR 2RYT 2RYX 2RY 2RYP 2RYRX
2RYR 2JIT 2JIX 2JI 2JIP 2JIET 2JIEX 2JIE 2JIEP 2JUOT 2JUOX 2JUO 2JUOP 2JOT 2JOX 2JO 2JOP 2JUT 2JUX
2JU 2JUP 2JURX 2JUR 2JYT 2JYX 2JY 2JYP 2JYRX 2JYR 2QIT 2QIX 2QI 2QIP 2QIET 2QIEX 2QIE 2QIEP 2QUOT
2QUOX 2QUO 2QUOP 2QOT 2QOX 2QO 2QOP 2QUT 2QUX 2QU 2QUP 2QURX 2QUR 2QYT 2QYX 2QY 2QYP 2QYRX 2QYR
2JJIT 2JJIX 2JJI 2JJIP 2JJIET 2JJIEX 2JJIE 2JJIEP 2JJUOX 2JJUO 2JJUOP 2JJOT 2JJOX 2JJO 2JJOP 2JJUT
2JJUX 2JJU 2JJUP 2JJURX 2JJUR 2JJYT 2JJYX 2JJY 2JJYP 2NJIT 2NJIX 2NJI 2NJIP 2NJIET 2NJIEX 2NJIE
2NJIEP 2NJUOX 2NJUO 2NJOT 2NJOX 2NJO 2NJOP 2NJUX 2NJU 2NJUP 2NJURX 2NJUR 2NJYT 2NJYX 2NJY 2NJYP
2NJYRX 2NJYR 2NYIT 2NYIX 2NYI 2NYIP 2NYIET 2NYIEX 2NYIE 2NYIEP 2NYUOX 2NYUO 2NYUOP 2NYOT 2NYOX
2NYO 2NYOP 2NYUT 2NYUX 2NYU 2NYUP 2XIT 2XIX 2XI 2XIP 2XIET 2XIEX 2XIE 2XIEP 2XUOX 2XUO 2XOT 2XOX
2XO 2XOP 2XYT 2XYX 2XY 2XYP 2XYRX 2XYR 2YIT 2YIX 2YI 2YIP 2YIET 2YIEX 2YIE 2YIEP 2YUOT 2YUOX 2YUO
2YUOP 2YOT 2YOX 2YO 2YOP 2YUT 2YUX 2YU 2YUP 2YURX 2YUR 2YYT 2YYX 2YY 2YYP 2YYRX 2YYR @A490
1RADICAL_QOT 2LI 2KIT 2NYIP 2CYP 2SSI 2GGOP 2GEP 2MI 2HXIT 2LYR 2BBUT 2MOP 2YO 2PUT 2HXUO 2TAT 2GA
2ZUP 2CYT 2DDUR 2BUR 2GGUO 2NYOP 2TU 2OP 2JJUT 2ZOT 2PYT 2HMO 2YIT 2VUR 2SHY 2VEP 2ZA 2JO 2NZUP
2JJY 2GOT 2JJIE 2WO 2DU 2SHUR 2LIE 2CY 2CUOP 2CIP 2HXOP 2SHAT 2ZUR 2SHOP 2CHE 2ZZIET 2NBIE 2KE
@A4D0 0LISU_LETTER_BA 2PA 2PHA 2DA 2TA 2THA 2GA 2KA 2KHA 2JA 2CA 2CHA 2DZA 2TSA 2TSHA 2MA 2NA 2LA
2SA 2ZHA 2ZA 2NGA 2HA 2XA 2HHA 2FA 2WA 2SHA 2YA 2GHA 2A 2AE 2E 2EU 2I 2O 2U 2UE 2UH 2OE
2TONE_MYA_TI 3NA_PO 3MYA_CYA 4BO 4NA 4JEU 1PUNCTUATION_COMMA 2FULL_STOP 0VAI_SYLLABLE_EE 2EEN 2HEE
2WEE 2WEEN 2PEE 2BHEE 2BEE 2MBEE 2KPEE 2MGBEE 2GBEE 2FEE 2VEE 2TEE 2THEE 2DHEE 2DHHEE 2LEE 2REE
2DEE 2NDEE 2SEE 2SHEE 2ZEE 2ZHEE 2CEE 2JEE 2NJEE 2YEE 2KEE 2NGGEE 2GEE 2MEE 2NEE 2NYEE 2I 2IN 2HI
2HIN 2WI 2WIN 2PI 2BHI 2BI 2MBI 2KPI 2MGBI 2GBI 2FI 2VI 2TI 2THI 2DHI 2DHHI 2LI 2RI 2DI 2NDI 2SI
2SHI 2ZI 2ZHI 2CI 2JI 2NJI 2YI 2KI 2NGGI 2GI 2MI 2NI 2NYI 2A 2AN 2NGAN 2HA 2HAN 2WA 2WAN 2PA 2BHA
2BA 2MBA 2KPA 2KPAN 2MGBA 2GBA 2FA 2VA 2TA 2THA 2DHA 2DHHA 2LA 2RA 2DA 2NDA 2SA 2SHA 2ZA 2ZHA 2CA
2JA 2NJA 2YA 2KA 2KAN 2NGGA 2GA 2MA 2NA 2NYA 2OO 2OON 2HOO 2WOO 2WOON 2POO 2BHOO 2BOO 2MBOO 2KPOO
2MGBOO 2GBOO 2FOO 2VOO 2TOO 2THOO 2DHOO 2DHHOO 2LOO 2ROO 2DOO 2NDOO 2SOO 2SHOO 2ZOO 2ZHOO 2COO
2JOO 2NJOO 2YOO 2KOO 2NGGOO 2GOO 2MOO 2NOO 2NYOO 2U 2UN 2HU 2HUN 2WU 2WUN 2PU 2BHU 2BU 2MBU 2KPU
2MGBU 2GBU 2FU 2VU 2TU 2THU 2DHU 2DHHU 2LU 2RU 2DU 2NDU 2SU 2SHU 2ZU 2ZHU 2CU 2JU 2NJU 2YU 2KU
2NGGU 2GU 2MU 2NU 2NYU 2O 2ON 2NGON 2HO 2HON 2WO 2WON 2PO 2BHO 2BO 2MBO 2KPO 2MGBO 2GBO 2GBON 2FO
2VO 2TO 2THO 2DHO 2DHHO 2LO 2RO 2DO 2NDO 2SO 2SHO 2ZO 2ZHO 2CO 2JO 2NJO 2YO 2KO 2NGGO 2GO 2MO 2NO
2NYO 2E 2EN 2NGEN 2HE 2HEN 2WE 2WEN 2PE 2BHE 2BE 2MBE 2KPE 2KPEN 2MGBE 2GBE 2GBEN 2FE 2VE 2TE 2THE
2DHE 2DHHE 2LE 2RE 2DE 2NDE 2SE 2SHE 2ZE 2ZHE 2CE 2JE 2NJE 2YE 2KE 2NGGE 2NGGEN 2GE 2GEN 2ME 2NE
2NYE 2NG 2LENGTHENER 1COMMA 1FULL_STOP 1QUESTION_MARK 1SYLLABLE_NDOLE_FA 3KA 3SOO 1SYMBOL_FEENG
2KEENG 2TING 2NII 2BANG 2FAA 2TAA 2DANG 2DOONG 2KUNG 2TONG 2DO-O 2JONG 1DIGIT_ZERO 2ONE 2TWO
2THREE 2FOUR 2FIVE 2SIX 2SEVEN 2EIGHT 2NINE 1SYLLABLE_NDOLE_MA 3DO @A640
0CYRILLIC_CAPITAL_LETTER_ZEMLYA ~ 1CAPITAL_LETTER_DZELO ~ 1CAPITAL_LETTER_REVERSED_DZE ~
1CAPITAL_LETTER_IOTA ~ 1CAPITAL_LETTER_DJERV ~ 1CAPITAL_LETTER_MONOGRAPH_UK ~
1CAPITAL_LETTER_BROAD_OMEGA ~ 1CAPITAL_LETTER_NEUTRAL_YER ~ 1CAPITAL_LETTER_YERU_WITH_BACK_YER ~
1CAPITAL_LETTER_IOTIFIED_YAT ~ 1CAPITAL_LETTER_REVERSED_YU ~ 1CAPITAL_LETTER_IOTIFIED_A ~
1CAPITAL_LETTER_CLOSED_LITTLE_YUS ~ 1CAPITAL_LETTER_BLENDED_YUS ~
1CAPITAL_LETTER_IOTIFIED_CLOSED_LITTLE_YUS ~ 1CAPITAL_LETTER_YN ~ 1CAPITAL_LETTER_REVERSED_TSE ~
1CAPITAL_LETTER_SOFT_DE ~ 1CAPITAL_LETTER_SOFT_EL ~ 1CAPITAL_LETTER_SOFT_EM ~
1CAPITAL_LETTER_MONOCULAR_O ~ 1CAPITAL_LETTER_BINOCULAR_O ~ 1CAPITAL_LETTER_DOUBLE_MONOCULAR_O ~
1LETTER_MULTIOCULAR_O 0COMBINING_CYRILLIC_VZMET 2TEN_MILLIONS_SIGN 2HUNDRED_MILLIONS_SIGN
2THOUSAND_MILLIONS_SIGN 0SLAVONIC_ASTERISK 0COMBINING_CYRILLIC_LETTER_UKRAINIAN_IE 3I 3YI 3U
3HARD_SIGN 3YERU 3SOFT_SIGN 3OMEGA 2KAVYKA 2PAYEROK 0CYRILLIC_KAVYKA 1PAYEROK 1CAPITAL_LETTER_DWE
~ 1CAPITAL_LETTER_DZWE ~ 1CAPITAL_LETTER_ZHWE ~ 1CAPITAL_LETTER_CCHE ~ 1CAPITAL_LETTER_DZZE ~
1CAPITAL_LETTER_TE_WITH_MIDDLE_HOOK ~ 1CAPITAL_LETTER_TWE ~ 1CAPITAL_LETTER_TSWE ~
1CAPITAL_LETTER_TSSE ~ 1CAPITAL_LETTER_TCHE ~ 1CAPITAL_LETTER_HWE ~ 1CAPITAL_LETTER_SHWE ~
1CAPITAL_LETTER_DOUBLE_O ~ 1CAPITAL_LETTER_CROSSED_O ~ 0MODIFIER_LETTER_CYRILLIC_HARD_SIGN
3SOFT_SIGN 0COMBINING_CYRILLIC_LETTER_EF 3IOTIFIED_E 0BAMUM_LETTER_A 2KA 2U 2KU 2EE 2REE 2TAE 2O
2NYI 2I 2LA 2PA 2RII 2RIEE 2LEEEE 2MEEEE 2TAA 2NDAA 2NJAEM 2M 2SUU 2MU 2SHII 2SI 2SHEUX 2SEUX
2KYEE 2KET 2NUAE 2NU 2NJUAE 2YOQ 2SHU 2YUQ 2YA 2NSHA 2KEUX 2PEUX 2NJEE 2NTEE 2PUE 2WUE 2PEE 2FEE
2RU 2LU 2MI 2NI 2REUX 2RAE 2KEN 2NGKWAEN 2NGGA 2NGA 2SHO 2PUAE 2FU 2FOM 2WA 2NA 2LI 2PI 2LOQ 2KO
2MBEN 2REN 2MEN 2MA 2TI 2KI 2MO 2MBAA 2TET 2KPA 2TEN 2NTUU 2SAMBA 2FAAMAE 2KOVUU 2KOGHOM
1COMBINING_MARK_KOQNDON 3TUKWENTIS 1NJAEMLI 1FULL_STOP 1COLON 1COMMA 1SEMICOLON 1QUESTION_MARK
@A700 0MODIFIER_LETTER_CHINESE_TONE_YIN_PING 4YANG_PING 4YIN_SHANG 4YANG_SHANG 4YIN_QU 4YANG_QU
4YIN_RU 4YANG_RU 2EXTRA-HIGH_DOTTED_TONE_BAR 2HIGH_DOTTED_TONE_BAR 2MID_DOTTED_TONE_BAR
2LOW_DOTTED_TONE_BAR 2EXTRA-LOW_DOTTED_TONE_BAR 2EXTRA-HIGH_DOTTED_LEFT-STEM_TONE_BAR
2HIGH_DOTTED_LEFT-STEM_TONE_BAR 2MID_DOTTED_LEFT-STEM_TONE_BAR 2LOW_DOTTED_LEFT-STEM_TONE_BAR
2EXTRA-LOW_DOTTED_LEFT-STEM_TONE_BAR 2EXTRA-HIGH_LEFT-STEM_TONE_BAR 2HIGH_LEFT-STEM_TONE_BAR
2MID_LEFT-STEM_TONE_BAR 2LOW_LEFT-STEM_TONE_BAR 2EXTRA-LOW_LEFT-STEM_TONE_BAR 2DOT_VERTICAL_BAR
3SLASH 3HORIZONTAL_BAR 2LOWER_RIGHT_CORNER_ANGLE 2RAISED_UP_ARROW 3DOWN_ARROW 3EXCLAMATION_MARK
3INVERTED_EXCLAMATION_MARK 2LOW_INVERTED_EXCLAMATION_MARK 2STRESS_AND_HIGH_TONE 4LOW_TONE
0LATIN_CAPITAL_LETTER_EGYPTOLOGICAL_ALEF ~ 1CAPITAL_LETTER_EGYPTOLOGICAL_AIN ~
1CAPITAL_LETTER_HENG ~ 1CAPITAL_LETTER_TZ ~ 1CAPITAL_LETTER_TRESILLO ~ 1CAPITAL_LETTER_CUATRILLO ~
1CAPITAL_LETTER_CUATRILLO_WITH_COMMA ~ 1LETTER_SMALL_CAPITAL_F 4S 1CAPITAL_LETTER_AA ~
1CAPITAL_LETTER_AO ~ 1CAPITAL_LETTER_AU ~ 1CAPITAL_LETTER_AV ~
1CAPITAL_LETTER_AV_WITH_HORIZONTAL_BAR ~ 1CAPITAL_LETTER_AY ~ 1CAPITAL_LETTER_REVERSED_C_WITH_DOT
~ 1CAPITAL_LETTER_K_WITH_STROKE ~ 1CAPITAL_LETTER_K_WITH_DIAGONAL_STROKE ~
1CAPITAL_LETTER_K_WITH_STROKE_AND_DIAGONAL_STROKE ~ 1CAPITAL_LETTER_BROKEN_L ~
1CAPITAL_LETTER_L_WITH_HIGH_STROKE ~ 1CAPITAL_LETTER_O_WITH_LONG_STROKE_OVERLAY ~
1CAPITAL_LETTER_O_WITH_LOOP ~ 1CAPITAL_LETTER_OO ~ 1CAPITAL_LETTER_P_WITH_STROKE_THROUGH_DESCENDER
~ 1CAPITAL_LETTER_P_WITH_FLOURISH ~ 1CAPITAL_LETTER_P_WITH_SQUIRREL_TAIL ~
1CAPITAL_LETTER_Q_WITH_STROKE_THROUGH_DESCENDER ~ 1CAPITAL_LETTER_Q_WITH_DIAGONAL_STROKE ~
1CAPITAL_LETTER_R_ROTUNDA ~ 1CAPITAL_LETTER_RUM_ROTUNDA ~ 1CAPITAL_LETTER_V_WITH_DIAGONAL_STROKE ~
1CAPITAL_LETTER_VY ~ 1CAPITAL_LETTER_VISIGOTHIC_Z ~ 1CAPITAL_LETTER_THORN_WITH_STROKE ~
1CAPITAL_LETTER_THORN_WITH_STROKE_THROUGH_DESCENDER ~ 1CAPITAL_LETTER_VEND ~ 1CAPITAL_LETTER_ET ~
1CAPITAL_LETTER_IS ~ 1CAPITAL_LETTER_CON ~ 0MODIFIER_LETTER_US 0LATIN_SMALL_LETTER_DUM 3LUM 3MUM
3NUM 3RUM 1LETTER_SMALL_CAPITAL_RUM 1SMALL_LETTER_TUM 3UM 1CAPITAL_LETTER_INSULAR_D ~
1CAPITAL_LETTER_INSULAR_F ~ 1CAPITAL_LETTER_INSULAR_G 3TURNED_INSULAR_G ~ 1CAPITAL_LETTER_TURNED_L
~ 1CAPITAL_LETTER_INSULAR_R ~ 1CAPITAL_LETTER_INSULAR_S ~ 1CAPITAL_LETTER_INSULAR_T ~
0MODIFIER_LETTER_LOW_CIRCUMFLEX_ACCENT 2COLON 2SHORT_EQUALS_SIGN 0LATIN_CAPITAL_LETTER_SALTILLO ~
1CAPITAL_LETTER_TURNED_H 1SMALL_LETTER_L_WITH_RETROFLEX_HOOK_AND_BELT 1LETTER_SINOLOGICAL_DOT
1CAPITAL_LETTER_N_WITH_DESCENDER ~ 1CAPITAL_LETTER_C_WITH_BAR ~ 5PALATAL_HOOK 3H_WITH_PALATAL_HOOK
1CAPITAL_LETTER_B_WITH_FLOURISH ~ 1CAPITAL_LETTER_F_WITH_STROKE ~ 1CAPITAL_LETTER_VOLAPUK_AE ~
1CAPITAL_LETTER_VOLAPUK_OE ~ 1CAPITAL_LETTER_VOLAPUK_UE ~ 1CAPITAL_LETTER_G_WITH_OBLIQUE_STROKE ~
1CAPITAL_LETTER_K_WITH_OBLIQUE_STROKE ~ 1CAPITAL_LETTER_N_WITH_OBLIQUE_STROKE ~
1CAPITAL_LETTER_R_WITH_OBLIQUE_STROKE ~ 1CAPITAL_LETTER_S_WITH_OBLIQUE_STROKE ~
1CAPITAL_LETTER_H_WITH_HOOK 3REVERSED_OPEN_E 3SCRIPT_G 3L_WITH_BELT 3SMALL_CAPITAL_I
1LETTER_SMALL_CAPITAL_Q 1CAPITAL_LETTER_TURNED_K 4T 3J_WITH_CROSSED-TAIL 3CHI 3BETA ~
1CAPITAL_LETTER_OMEGA ~ 1CAPITAL_LETTER_U_WITH_STROKE ~ 1CAPITAL_LETTER_GLOTTAL_A ~
1CAPITAL_LETTER_GLOTTAL_I ~ 1CAPITAL_LETTER_GLOTTAL_U ~ 1CAPITAL_LETTER_OLD_POLISH_O ~
1CAPITAL_LETTER_ANGLICANA_W ~ 1CAPITAL_LETTER_C_WITH_PALATAL_HOOK 3S_WITH_HOOK
3Z_WITH_PALATAL_HOOK 3D_WITH_SHORT_STROKE_OVERLAY ~ 1CAPITAL_LETTER_S_WITH_SHORT_STROKE_OVERLAY ~
@A7D0 1CAPITAL_LETTER_CLOSED_INSULAR_G ~ @A7D3 3DOUBLE_THORN @A7D5 4WYNN
1CAPITAL_LETTER_MIDDLE_SCOTS_S ~ 1CAPITAL_LETTER_SIGMOID_S ~ @A7F2 0MODIFIER_LETTER_CAPITAL_C 3F
3Q 0LATIN_CAPITAL_LETTER_REVERSED_HALF_H ~ 1EPIGRAPHIC_LETTER_SIDEWAYS_I
0MODIFIER_LETTER_CAPITAL_H_WITH_STROKE 2SMALL_LIGATURE_OE 0LATIN_LETTER_SMALL_CAPITAL_TURNED_M
1EPIGRAPHIC_LETTER_REVERSED_F 4P 3INVERTED_M 3I_LONGA 3ARCHAIC_M 0SYLOTI_NAGRI_LETTER_A 3I
2SIGN_DVISVARA 2LETTER_U 3E 3O 2SIGN_HASANTA 2LETTER_KO 3KHO 3GO 3GHO 2SIGN_ANUSVARA 2LETTER_CO
3CHO 3JO 3JHO 3TTO 3TTHO 3DDO 3DDHO 3TO 3THO 3DO 3DHO 3NO 3PO 3PHO 3BO 3BHO 3MO 3RO 3LO 3RRO 3SO
3HO 2VOWEL_SIGN_A 4I 4U 4E 4OO 2POETRY_MARK-1 + + + 2SIGN_ALTERNATE_HASANTA @A830
0NORTH_INDIC_FRACTION_ONE_QUARTER 4HALF 3THREE_QUARTERS 3ONE_SIXTEENTH 4EIGHTH 3THREE_SIXTEENTHS
2QUARTER_MARK 2PLACEHOLDER_MARK 2RUPEE_MARK 2QUANTITY_MARK @A840 0PHAGS-PA_LETTER_KA 2KHA 2GA 2NGA
2CA 2CHA 2JA 2NYA 2TA 2THA 2DA 2NA 2PA 2PHA 2BA 2MA 2TSA 2TSHA 2DZA 2WA 2ZHA 2ZA 2SMALL_A 2YA 2RA
2LA 2SHA 2SA 2HA 2A 2I 2U 2E 2O 2QA 2XA 2FA 2GGA 2EE 1SUBJOINED_LETTER_WA 3YA 1LETTER_TTA 2TTHA
2DDA 2NNA 2ALTERNATE_YA 2VOICELESS_SHA 2VOICED_HA 2ASPIRATED_FA 1SUBJOINED_LETTER_RA
1SUPERFIXED_LETTER_RA 1LETTER_CANDRABINDU 1SINGLE_HEAD_MARK 1DOUBLE_HEAD_MARK 1MARK_SHAD
2DOUBLE_SHAD @A880 0SAURASHTRA_SIGN_ANUSVARA 2VISARGA 1LETTER_A 2AA 2I 2II 2U 2UU 2VOCALIC_R 3RR
3L 3LL 2E 2EE 2AI 2O 2OO 2AU 2KA 2KHA 2GA 2GHA 2NGA 2CA 2CHA 2JA 2JHA 2NYA 2TTA 2TTHA 2DDA 2DDHA
2NNA 2TA 2THA 2DA 2DHA 2NA 2PA 2PHA 2BA 2BHA 2MA 2YA 2RA 2LA 2VA 2SHA 2SSA 2SA 2HA 2LLA
1CONSONANT_SIGN_HAARU 1VOWEL_SIGN_AA 3I 3II 3U 3UU 3VOCALIC_R 4RR 4L 4LL 3E 3EE 3AI 3O 3OO 3AU
1SIGN_VIRAMA 2CANDRABINDU @A8CE 1DANDA 1DOUBLE_DANDA 1DIGIT_ZERO 2ONE 2TWO 2THREE 2FOUR 2FIVE 2SIX
2SEVEN 2EIGHT 2NINE @A8E0 0COMBINING_DEVANAGARI_DIGIT_ZERO 3ONE 3TWO 3THREE 3FOUR 3FIVE 3SIX
3SEVEN 3EIGHT 3NINE 2LETTER_A 3U 3KA 3NA 3PA 3RA 3VI 2SIGN_AVAGRAHA
0DEVANAGARI_SIGN_SPACING_CANDRABINDU 2CANDRABINDU_VIRAMA 2DOUBLE_CANDRABINDU_VIRAMA
2CANDRABINDU_TWO 3THREE 3AVAGRAHA 2PUSHPIKA 1GAP_FILLER 1CARET 1HEADSTROKE 1SIGN_SIDDHAM 1JAIN_OM
1LETTER_AY 1VOWEL_SIGN_AY 0KAYAH_LI_DIGIT_ZERO 3ONE 3TWO 3THREE 3FOUR 3FIVE 3SIX 3SEVEN 3EIGHT
3NINE 2LETTER_KA 3KHA 3GA 3NGA 3SA 3SHA 3ZA 3NYA 3TA 3HTA 3NA 3PA 3PHA 3MA 3DA 3BA 3RA 3YA 3LA 3WA
3THA 3HA 3VA 3CA 3A 3OE 3I 3OO 2VOWEL_UE 3E 3U 3EE 3O 2TONE_PLOPHU 3CALYA 4PLOPHU 2SIGN_CWI 3SHYA
0REJANG_LETTER_KA 2GA 2NGA 2TA 2DA 2NA 2PA 2BA 2MA 2CA 2JA 2NYA 2SA 2RA 2LA 2YA 2WA 2HA 2MBA 2NGGA
2NDA 2NYJA 2A 1VOWEL_SIGN_I 3U 3E 3AI 3O 3AU 3EU 3EA 1CONSONANT_SIGN_NG 3N 3R 3H 1VIRAMA @A95F
1SECTION_MARK 0HANGUL_CHOSEONG_TIKEUT-MIEUM 2TIKEUT-PIEUP 2TIKEUT-SIOS 2TIKEUT-CIEUC 2RIEUL-KIYEOK
2RIEUL-SSANGKIYEOK 2RIEUL-TIKEUT 2RIEUL-SSANGTIKEUT 2RIEUL-MIEUM 2RIEUL-PIEUP 2RIEUL-SSANGPIEUP
2RIEUL-KAPYEOUNPIEUP 2RIEUL-SIOS 2RIEUL-CIEUC 2RIEUL-KHIEUKH 2MIEUM-KIYEOK 2MIEUM-TIKEUT
2MIEUM-SIOS 2PIEUP-SIOS-THIEUTH 2PIEUP-KHIEUKH 2PIEUP-HIEUH 2SSANGSIOS-PIEUP 2IEUNG-RIEUL
2IEUNG-HIEUH 2SSANGCIEUC-HIEUH 2SSANGTHIEUTH 2PHIEUPH-HIEUH 2HIEUH-SIOS 2SSANGYEORINHIEUH @A980
0JAVANESE_SIGN_PANYANGGA 2CECAK 2LAYAR 2WIGNYAN 1LETTER_A 2I_KAWI 2I 2II 2U 2PA_CEREK 2NGA_LELET
4RASWADI 2E 2AI 2O 2KA 3SASAK 3MURDA 2GA 3MURDA 2NGA 2CA 3MURDA 2JA 2NYA_MURDA 2JA_MAHAPRANA 2NYA
2TTA 3MAHAPRANA 2DDA 3MAHAPRANA 2NA_MURDA 2TA 3MURDA 2DA 3MAHAPRANA 2NA 2PA 3MURDA 2BA 3MURDA 2MA
2YA 2RA 3AGUNG 2LA 2WA 2SA_MURDA 3MAHAPRANA 2SA 2HA 1SIGN_CECAK_TELU 1VOWEL_SIGN_TARUNG 3TOLONG
3WULU 4MELIK 3SUKU 4MENDUT 3TALING 3DIRGA_MURE 3PEPET 1CONSONANT_SIGN_KERET 3PENGKAL 3CAKRA
1PANGKON 1LEFT_RERENGGAN 1RIGHT_RERENGGAN 1PADA_ANDAP 2MADYA 2LUHUR 2WINDU 2PANGKAT 2LINGSA
2LUNGSI 2ADEG 3ADEG 2PISELEH 1TURNED_PADA_PISELEH @A9CF 1PANGRANGKEP 1DIGIT_ZERO 2ONE 2TWO 2THREE
2FOUR 2FIVE 2SIX 2SEVEN 2EIGHT 2NINE @A9DE 1PADA_TIRTA_TUMETES 2ISEN-ISEN 0MYANMAR_LETTER_SHAN_GHA
3CHA 3JHA 3NNA 3BHA 1SIGN_SHAN_SAW 1MODIFIER_LETTER_SHAN_REDUPLICATION 1LETTER_TAI_LAING_NYA 4FA
4GA 4GHA 4JA 4JHA 4DDA 4DDHA 4NNA 1TAI_LAING_DIGIT_ZERO 4ONE 4TWO 4THREE 4FOUR 4FIVE 4SIX 4SEVEN
4EIGHT 4NINE 1LETTER_TAI_LAING_LLA 4DA 4DHA 4BA 4BHA @AA00 0CHAM_LETTER_A 2I 2U 2E 2AI 2O 2KA 2KHA
2GA 2GHA 2NGUE 2NGA 2CHA 2CHHA 2JA 2JHA 2NHUE 2NHA 2NHJA 2TA 2THA 2DA 2DHA 2NUE 2NA 2DDA 2PA 2PPA
2PHA 2BA 2BHA 2MUE 2MA 2BBA 2YA 2RA 2LA 2VA 2SSA 2SA 2HA 1VOWEL_SIGN_AA 3I 3II 3EI 3U 3OE 3O 3AI
3AU 3UE 1CONSONANT_SIGN_YA 3RA 3LA 3WA @AA40 1LETTER_FINAL_K 3G 3NG 1CONSONANT_SIGN_FINAL_NG
1LETTER_FINAL_CH 3T 3N 3P 3Y 3R 3L 3SS 1CONSONANT_SIGN_FINAL_M 4H @AA50 1DIGIT_ZERO 2ONE 2TWO
2THREE 2FOUR 2FIVE 2SIX 2SEVEN 2EIGHT 2NINE @AA5C 1PUNCTUATION_SPIRAL 2DANDA 2DOUBLE_DANDA
2TRIPLE_DANDA 0MYANMAR_LETTER_KHAMTI_GA 3CA 3CHA 3JA 3JHA 3NYA 3TTA 3TTHA 3DDA 3DDHA 3DHA 3NA 3SA
3HA 3HHA 3FA 1MODIFIER_LETTER_KHAMTI_REDUPLICATION 1LETTER_KHAMTI_XA 3ZA 3RA 1LOGOGRAM_KHAMTI_OAY
3QN 3HM 1SYMBOL_AITON_EXCLAMATION 3ONE 3TWO 1LETTER_AITON_RA 1SIGN_PAO_KAREN_TONE
2TAI_LAING_TONE-2 4TONE-5 1LETTER_SHWE_PALAUNG_CHA 4SHA 0TAI_VIET_LETTER_LOW_KO 3HIGH_KO 3LOW_KHO
3HIGH_KHO 3LOW_KHHO 3HIGH_KHHO 3LOW_GO 3HIGH_GO 3LOW_NGO 3HIGH_NGO 3LOW_CO 3HIGH_CO 3LOW_CHO
3HIGH_CHO 3LOW_SO 3HIGH_SO 3LOW_NYO 3HIGH_NYO 3LOW_DO 3HIGH_DO 3LOW_TO 3HIGH_TO 3LOW_THO 3HIGH_THO
3LOW_NO 3HIGH_NO 3LOW_BO 3HIGH_BO 3LOW_PO 3HIGH_PO 3LOW_PHO 3HIGH_PHO 3LOW_FO 3HIGH_FO 3LOW_MO
3HIGH_MO 3LOW_YO 3HIGH_YO 3LOW_RO 3HIGH_RO 3LOW_LO 3HIGH_LO 3LOW_VO 3HIGH_VO 3LOW_HO 3HIGH_HO
3LOW_O 3HIGH_O 2MAI_KANG 2VOWEL_AA 3I 3UE 3U 3E 3O 2MAI_KHIT 2VOWEL_IA 3UEA 3UA 3AUE 3AY 3AN 3AM
2TONE_MAI_EK 4NUENG 4THO 4SONG @AADB 2SYMBOL_KON 3NUENG 3SAM 3HO_HOI 3KOI_KOI
0MEETEI_MAYEK_LETTER_E 3O 3CHA 3NYA 3TTA 3TTHA 3DDA 3DDHA 3NNA 3SHA 3SSA 2VOWEL_SIGN_II 4UU 4AAI
4AU 4AAU 2CHEIKHAN 2AHANG_KHUDAM 2ANJI 2SYLLABLE_REPETITION_MARK 2WORD_REPETITION_MARK
2VOWEL_SIGN_VISARGA 2VIRAMA @AB01 0ETHIOPIC_SYLLABLE_TTHU 2TTHI 2TTHAA 2TTHEE 2TTHE 2TTHO @AB09
2DDHU 2DDHI 2DDHAA 2DDHEE 2DDHE 2DDHO @AB11 2DZU 2DZI 2DZAA 2DZEE 2DZE 2DZO @AB20 2CCHHA 2CCHHU
2CCHHI 2CCHHAA 2CCHHEE 2CCHHE 2CCHHO @AB28 2BBA 2BBU 2BBI 2BBAA 2BBEE 2BBE 2BBO @AB30
0LATIN_SMALL_LETTER_BARRED_ALPHA 3A_REVERSED-SCHWA 3BLACKLETTER_E 3BARRED_E 3E_WITH_FLOURISH
3LENIS_F 3SCRIPT_G_WITH_CROSSED-TAIL 3L_WITH_INVERTED_LAZY_S 5DOUBLE_MIDDLE_TILDE 5MIDDLE_RING
3M_WITH_CROSSED-TAIL 3N_WITH_CROSSED-TAIL 3ENG_WITH_CROSSED-TAIL 3BLACKLETTER_O 5WITH_STROKE
3OPEN_O_WITH_STROKE 3INVERTED_OE 3TURNED_OE_WITH_STROKE 6HORIZONTAL_STROKE 4O_OPEN-O 6WITH_STROKE
3STIRRUP_R 1LETTER_SMALL_CAPITAL_R_WITH_RIGHT_LEG 1SMALL_LETTER_R_WITHOUT_HANDLE 3DOUBLE_R
3R_WITH_CROSSED-TAIL 3DOUBLE_R_WITH_CROSSED-TAIL 3SCRIPT_R 5WITH_RING 3BASELINE_ESH
3U_WITH_SHORT_RIGHT_LEG 4BAR_WITH_SHORT_RIGHT_LEG 3UI 3TURNED_UI 3U_WITH_LEFT_HOOK 3CHI
4WITH_LOW_RIGHT_RING 6LEFT_SERIF 3X_WITH_LOW_RIGHT_RING 5LONG_LEFT_LEG 8AND_LOW_RIGHT_RING
8WITH_SERIF 3Y_WITH_SHORT_RIGHT_LEG 0MODIFIER_BREVE_WITH_INVERTED_BREVE 1LETTER_SMALL_HENG
3L_WITH_INVERTED_LAZY_S 5MIDDLE_TILDE 3U_WITH_LEFT_HOOK 0LATIN_SMALL_LETTER_SAKHA_YAT 3IOTIFIED_E
3OPEN_OE 3UO 3INVERTED_ALPHA 0GREEK_LETTER_SMALL_CAPITAL_OMEGA
0LATIN_SMALL_LETTER_DZ_DIGRAPH_WITH_RETROFLEX_HOOK 3TS_DIGRAPH_WITH_RETROFLEX_HOOK
3TURNED_R_WITH_MIDDLE_TILDE 0MODIFIER_LETTER_SMALL_TURNED_W 2LEFT_TACK 2RIGHT_TACK @AB70
0CHEROKEE_SMALL_LETTER_A 3E 3I 3O 3U 3V 3GA 3KA 3GE 3GI 3GO 3GU 3GV 3HA 3HE 3HI 3HO 3HU 3HV 3LA
3LE 3LI 3LO 3LU 3LV 3MA 3ME 3MI 3MO 3MU 3NA 3HNA 3NAH 3NE 3NI 3NO 3NU 3NV 3QUA 3QUE 3QUI 3QUO 3QUU
3QUV 3SA 3S 3SE 3SI 3SO 3SU 3SV 3DA 3TA 3DE 3TE 3DI 3TI 3DO 3DU 3DV 3DLA 3TLA 3TLE 3TLI 3TLO 3TLU
3TLV 3TSA 3TSE 3TSI 3TSO 3TSU 3TSV 3WA 3WE 3WI 3WO 3WU 3WV 3YA 0MEETEI_MAYEK_LETTER_KOK 3SAM 3LAI
3MIT 3PA 3NA 3CHIL 3TIL 3KHOU 3NGOU 3THOU 3WAI 3YANG 3HUK 3UN 3I 3PHAM 3ATIYA 3GOK 3JHAM 3RAI 3BA
3JIL 3DIL 3GHOU 3DHOU 3BHAM 3KOK_LONSUM 3LAI_LONSUM 3MIT_LONSUM 3PA_LONSUM 3NA_LONSUM 3TIL_LONSUM
3NGOU_LONSUM 3I_LONSUM 2VOWEL_SIGN_ONAP 4INAP 4ANAP 4YENAP 4SOUNAP 4UNAP 4CHEINAP 4NUNG 2CHEIKHEI
2LUM_IYEK 2APUN_IYEK @ABF0 2DIGIT_ZERO 3ONE 3TWO 3THREE 3FOUR 3FIVE 3SIX 3SEVEN 3EIGHT 3NINE @D7B0
0HANGUL_JUNGSEONG_O-YEO 2O-O-I 2YO-A 2YO-AE 2YO-EO 2U-YEO 2U-I-I 2YU-AE 2YU-O 2EU-A 2EU-EO 2EU-E
2EU-O 2I-YA-O 2I-YAE 2I-YEO 2I-YE 2I-O-I 2I-YO 2I-YU 2I-I 2ARAEA-A 2ARAEA-E @D7CB
1JONGSEONG_NIEUN-RIEUL 2NIEUN-CHIEUCH 2SSANGTIKEUT 2SSANGTIKEUT-PIEUP 2TIKEUT-PIEUP 2TIKEUT-SIOS
2TIKEUT-SIOS-KIYEOK 2TIKEUT-CIEUC 2TIKEUT-CHIEUCH 2TIKEUT-THIEUTH 2RIEUL-SSANGKIYEOK
2RIEUL-KIYEOK-HIEUH 2SSANGRIEUL-KHIEUKH 2RIEUL-MIEUM-HIEUH 2RIEUL-PIEUP-TIKEUT
2RIEUL-PIEUP-PHIEUPH 2RIEUL-YESIEUNG 2RIEUL-YEORINHIEUH-HIEUH 2KAPYEOUNRIEUL 2MIEUM-NIEUN
2MIEUM-SSANGNIEUN 2SSANGMIEUM 2MIEUM-PIEUP-SIOS 2MIEUM-CIEUC 2PIEUP-TIKEUT 2PIEUP-RIEUL-PHIEUPH
2PIEUP-MIEUM 2SSANGPIEUP 2PIEUP-SIOS-TIKEUT 2PIEUP-CIEUC 2PIEUP-CHIEUCH 2SIOS-MIEUM
2SIOS-KAPYEOUNPIEUP 2SSANGSIOS-KIYEOK 2SSANGSIOS-TIKEUT 2SIOS-PANSIOS 2SIOS-CIEUC 2SIOS-CHIEUCH
2SIOS-THIEUTH 2SIOS-HIEUH 2PANSIOS-PIEUP 2PANSIOS-KAPYEOUNPIEUP 2YESIEUNG-MIEUM 2YESIEUNG-HIEUH
2CIEUC-PIEUP 2CIEUC-SSANGPIEUP 2SSANGCIEUC 2PHIEUPH-SIOS 2PHIEUPH-THIEUTH @FB00
0LATIN_SMALL_LIGATURE_FF 3FI 3FL 3FFI 3FFL 3LONG_S_T 3ST @FB13 0ARMENIAN_SMALL_LIGATURE_MEN_NOW
4ECH 4INI 3VEW_NOW 3MEN_XEH @FB1D 0HEBREW_LETTER_YOD_WITH_HIRIQ 1POINT_JUDEO-SPANISH_VARIKA
1LIGATURE_YIDDISH_YOD_YOD_PATAH 1LETTER_ALTERNATIVE_AYIN 2WIDE_ALEF 3DALET 3HE 3KAF 3LAMED
3FINAL_MEM 3RESH 3TAV 2ALTERNATIVE_PLUS_SIGN 2SHIN_WITH_SHIN_DOT 4SIN_DOT 4DAGESH_AND_SHIN_DOT
6SIN_DOT 2ALEF_WITH_PATAH 4QAMATS 4MAPIQ 2BET_WITH_DAGESH 2GIMEL_WITH_DAGESH 2DALET_WITH_DAGESH
2HE_WITH_MAPIQ 2VAV_WITH_DAGESH 2ZAYIN_WITH_DAGESH @FB38 2TET_WITH_DAGESH 2YOD_WITH_DAGESH
2FINAL_KAF_WITH_DAGESH 2KAF_WITH_DAGESH 2LAMED_WITH_DAGESH @FB3E 2MEM_WITH_DAGESH @FB40
2NUN_WITH_DAGESH 2SAMEKH_WITH_DAGESH @FB43 2FINAL_PE_WITH_DAGESH 2PE_WITH_DAGESH @FB46
2TSADI_WITH_DAGESH 2QOF_WITH_DAGESH 2RESH_WITH_DAGESH 2SHIN_WITH_DAGESH 2TAV_WITH_DAGESH
2VAV_WITH_HOLAM 2BET_WITH_RAFE 2KAF_WITH_RAFE 2PE_WITH_RAFE 1LIGATURE_ALEF_LAMED
0ARABIC_LETTER_ALEF_WASLA_ISOLATED_FORM 4FINAL_FORM 2BEEH_ISOLATED_FORM 3FINAL_FORM 3INITIAL_FORM
3MEDIAL_FORM 2PEH_ISOLATED_FORM 3FINAL_FORM 3INITIAL_FORM 3MEDIAL_FORM 2BEHEH_ISOLATED_FORM
3FINAL_FORM 3INITIAL_FORM 3MEDIAL_FORM 2TTEHEH_ISOLATED_FORM 3FINAL_FORM 3INITIAL_FORM
3MEDIAL_FORM 2TEHEH_ISOLATED_FORM 3FINAL_FORM 3INITIAL_FORM 3MEDIAL_FORM 2TTEH_ISOLATED_FORM
3FINAL_FORM 3INITIAL_FORM 3MEDIAL_FORM 2VEH_ISOLATED_FORM 3FINAL_FORM 3INITIAL_FORM 3MEDIAL_FORM
2PEHEH_ISOLATED_FORM 3FINAL_FORM 3INITIAL_FORM 3MEDIAL_FORM 2DYEH_ISOLATED_FORM 3FINAL_FORM
3INITIAL_FORM 3MEDIAL_FORM 2NYEH_ISOLATED_FORM 3FINAL_FORM 3INITIAL_FORM 3MEDIAL_FORM
2TCHEH_ISOLATED_FORM 3FINAL_FORM 3INITIAL_FORM 3MEDIAL_FORM 2TCHEHEH_ISOLATED_FORM 3FINAL_FORM
3INITIAL_FORM 3MEDIAL_FORM 2DDAHAL_ISOLATED_FORM 3FINAL_FORM 2DAHAL_ISOLATED_FORM 3FINAL_FORM
2DUL_ISOLATED_FORM 3FINAL_FORM 2DDAL_ISOLATED_FORM 3FINAL_FORM 2JEH_ISOLATED_FORM 3FINAL_FORM
2RREH_ISOLATED_FORM 3FINAL_FORM 2KEHEH_ISOLATED_FORM 3FINAL_FORM 3INITIAL_FORM 3MEDIAL_FORM
2GAF_ISOLATED_FORM 3FINAL_FORM 3INITIAL_FORM 3MEDIAL_FORM 2GUEH_ISOLATED_FORM 3FINAL_FORM
3INITIAL_FORM 3MEDIAL_FORM 2NGOEH_ISOLATED_FORM 3FINAL_FORM 3INITIAL_FORM 3MEDIAL_FORM
2NOON_GHUNNA_ISOLATED_FORM 4FINAL_FORM 2RNOON_ISOLATED_FORM 3FINAL_FORM 3INITIAL_FORM 3MEDIAL_FORM
2HEH_WITH_YEH_ABOVE_ISOLATED_FORM 6FINAL_FORM 3GOAL_ISOLATED_FORM 4FINAL_FORM 4INITIAL_FORM
4MEDIAL_FORM 3DOACHASHMEE_ISOLATED_FORM 4FINAL_FORM 4INITIAL_FORM 4MEDIAL_FORM
2YEH_BARREE_ISOLATED_FORM 4FINAL_FORM 4WITH_HAMZA_ABOVE_ISOLATED_FORM 7FINAL_FORM
1SYMBOL_DOT_ABOVE 3BELOW 2TWO_DOTS_ABOVE 4BELOW 2THREE_DOTS_ABOVE 4BELOW 4POINTING_DOWNWARDS_ABOVE
6BELOW 2FOUR_DOTS_ABOVE 4BELOW 2DOUBLE_VERTICAL_BAR_BELOW 2TWO_DOTS_VERTICALLY_ABOVE 5BELOW 2RING
2SMALL_TAH_ABOVE 4BELOW 2WASLA_ABOVE @FBD3 1LETTER_NG_ISOLATED_FORM 3FINAL_FORM 3INITIAL_FORM
3MEDIAL_FORM 2U_ISOLATED_FORM 3FINAL_FORM 2OE_ISOLATED_FORM 3FINAL_FORM 2YU_ISOLATED_FORM
3FINAL_FORM 2U_WITH_HAMZA_ABOVE_ISOLATED_FORM 2VE_ISOLATED_FORM 3FINAL_FORM
2KIRGHIZ_OE_ISOLATED_FORM 4FINAL_FORM 3YU_ISOLATED_FORM 4FINAL_FORM 2E_ISOLATED_FORM 3FINAL_FORM
3INITIAL_FORM 3MEDIAL_FORM 2UIGHUR_KAZAKH_KIRGHIZ_ALEF_MAKSURA_INITIAL_FORM 7MEDIAL_FORM
1LIGATURE_YEH_WITH_HAMZA_ABOVE_WITH_ALEF_ISOLATED_FORM 8FINAL_FORM 7AE_ISOLATED_FORM 8FINAL_FORM
7WAW_ISOLATED_FORM 8FINAL_FORM 7U_ISOLATED_FORM 8FINAL_FORM 7OE_ISOLATED_FORM 8FINAL_FORM
7YU_ISOLATED_FORM 8FINAL_FORM 7E_ISOLATED_FORM 8FINAL_FORM 8INITIAL_FORM
2UIGHUR_KIRGHIZ_YEH_WITH_HAMZA_ABOVE_WITH_ALEF_MAKSURA_ISOLATED_FORM BFINAL_FORM BINITIAL_FORM
1LETTER_FARSI_YEH_ISOLATED_FORM 4FINAL_FORM 4INITIAL_FORM 4MEDIAL_FORM
1LIGATURE_YEH_WITH_HAMZA_ABOVE_WITH_JEEM_ISOLATED_FORM 7HAH_ISOLATED_FORM 7MEEM_ISOLATED_FORM
7ALEF_MAKSURA_ISOLATED_FORM 7YEH_ISOLATED_FORM 2BEH_WITH_JEEM_ISOLATED_FORM 4HAH_ISOLATED_FORM
4KHAH_ISOLATED_FORM 4MEEM_ISOLATED_FORM 4ALEF_MAKSURA_ISOLATED_FORM 4YEH_ISOLATED_FORM
2TEH_WITH_JEEM_ISOLATED_FORM 4HAH_ISOLATED_FORM 4KHAH_ISOLATED_FORM 4MEEM_ISOLATED_FORM
4ALEF_MAKSURA_ISOLATED_FORM 4YEH_ISOLATED_FORM 2THEH_WITH_JEEM_ISOLATED_FORM 4MEEM_ISOLATED_FORM
4ALEF_MAKSURA_ISOLATED_FORM 4YEH_ISOLATED_FORM 2JEEM_WITH_HAH_ISOLATED_FORM 4MEEM_ISOLATED_FORM
2HAH_WITH_JEEM_ISOLATED_FORM 4MEEM_ISOLATED_FORM 2KHAH_WITH_JEEM_ISOLATED_FORM 4HAH_ISOLATED_FORM
4MEEM_ISOLATED_FORM 2SEEN_WITH_JEEM_ISOLATED_FORM 4HAH_ISOLATED_FORM 4KHAH_ISOLATED_FORM
4MEEM_ISOLATED_FORM 2SAD_WITH_HAH_ISOLATED_FORM 4MEEM_ISOLATED_FORM 2DAD_WITH_JEEM_ISOLATED_FORM
4HAH_ISOLATED_FORM 4KHAH_ISOLATED_FORM 4MEEM_ISOLATED_FORM 2TAH_WITH_HAH_ISOLATED_FORM
4MEEM_ISOLATED_FORM 2ZAH_WITH_MEEM_ISOLATED_FORM 2AIN_WITH_JEEM_ISOLATED_FORM 4MEEM_ISOLATED_FORM
2GHAIN_WITH_JEEM_ISOLATED_FORM 4MEEM_ISOLATED_FORM 2FEH_WITH_JEEM_ISOLATED_FORM 4HAH_ISOLATED_FORM
4KHAH_ISOLATED_FORM 4MEEM_ISOLATED_FORM 4ALEF_MAKSURA_ISOLATED_FORM 4YEH_ISOLATED_FORM
2QAF_WITH_HAH_ISOLATED_FORM 4MEEM_ISOLATED_FORM 4ALEF_MAKSURA_ISOLATED_FORM 4YEH_ISOLATED_FORM
2KAF_WITH_ALEF_ISOLATED_FORM 4JEEM_ISOLATED_FORM 4HAH_ISOLATED_FORM 4KHAH_ISOLATED_FORM
4LAM_ISOLATED_FORM 4MEEM_ISOLATED_FORM 4ALEF_MAKSURA_ISOLATED_FORM 4YEH_ISOLATED_FORM
2LAM_WITH_JEEM_ISOLATED_FORM 4HAH_ISOLATED_FORM 4KHAH_ISOLATED_FORM 4MEEM_ISOLATED_FORM
4ALEF_MAKSURA_ISOLATED_FORM 4YEH_ISOLATED_FORM 2MEEM_WITH_JEEM_ISOLATED_FORM 4HAH_ISOLATED_FORM
4KHAH_ISOLATED_FORM 4MEEM_ISOLATED_FORM 4ALEF_MAKSURA_ISOLATED_FORM 4YEH_ISOLATED_FORM
2NOON_WITH_JEEM_ISOLATED_FORM 4HAH_ISOLATED_FORM 4KHAH_ISOLATED_FORM 4MEEM_ISOLATED_FORM
4ALEF_MAKSURA_ISOLATED_FORM 4YEH_ISOLATED_FORM 2HEH_WITH_JEEM_ISOLATED_FORM 4MEEM_ISOLATED_FORM
4ALEF_MAKSURA_ISOLATED_FORM 4YEH_ISOLATED_FORM 2YEH_WITH_JEEM_ISOLATED_FORM 4HAH_ISOLATED_FORM
4KHAH_ISOLATED_FORM 4MEEM_ISOLATED_FORM 4ALEF_MAKSURA_ISOLATED_FORM 4YEH_ISOLATED_FORM
2THAL_WITH_SUPERSCRIPT_ALEF_ISOLATED_FORM 2REH_WITH_SUPERSCRIPT_ALEF_ISOLATED_FORM
2ALEF_MAKSURA_WITH_SUPERSCRIPT_ALEF_ISOLATED_FORM 2SHADDA_WITH_DAMMATAN_ISOLATED_FORM
4KASRATAN_ISOLATED_FORM 4FATHA_ISOLATED_FORM 4DAMMA_ISOLATED_FORM 4KASRA_ISOLATED_FORM
4SUPERSCRIPT_ALEF_ISOLATED_FORM 2YEH_WITH_HAMZA_ABOVE_WITH_REH_FINAL_FORM 7ZAIN_FINAL_FORM
7MEEM_FINAL_FORM 7NOON_FINAL_FORM 7ALEF_MAKSURA_FINAL_FORM 7YEH_FINAL_FORM
2BEH_WITH_REH_FINAL_FORM 4ZAIN_FINAL_FORM 4MEEM_FINAL_FORM 4NOON_FINAL_FORM
4ALEF_MAKSURA_FINAL_FORM 4YEH_FINAL_FORM 2TEH_WITH_REH_FINAL_FORM 4ZAIN_FINAL_FORM
4MEEM_FINAL_FORM 4NOON_FINAL_FORM 4ALEF_MAKSURA_FINAL_FORM 4YEH_FINAL_FORM
2THEH_WITH_REH_FINAL_FORM 4ZAIN_FINAL_FORM 4MEEM_FINAL_FORM 4NOON_FINAL_FORM
4ALEF_MAKSURA_FINAL_FORM 4YEH_FINAL_FORM 2FEH_WITH_ALEF_MAKSURA_FINAL_FORM 4YEH_FINAL_FORM
2QAF_WITH_ALEF_MAKSURA_FINAL_FORM 4YEH_FINAL_FORM 2KAF_WITH_ALEF_FINAL_FORM 4LAM_FINAL_FORM
4MEEM_FINAL_FORM 4ALEF_MAKSURA_FINAL_FORM 4YEH_FINAL_FORM 2LAM_WITH_MEEM_FINAL_FORM
4ALEF_MAKSURA_FINAL_FORM 4YEH_FINAL_FORM 2MEEM_WITH_ALEF_FINAL_FORM 4MEEM_FINAL_FORM
2NOON_WITH_REH_FINAL_FORM 4ZAIN_FINAL_FORM 4MEEM_FINAL_FORM 4NOON_FINAL_FORM
4ALEF_MAKSURA_FINAL_FORM 4YEH_FINAL_FORM 2ALEF_MAKSURA_WITH_SUPERSCRIPT_ALEF_FINAL_FORM
2YEH_WITH_REH_FINAL_FORM 4ZAIN_FINAL_FORM 4MEEM_FINAL_FORM 4NOON_FINAL_FORM
4ALEF_MAKSURA_FINAL_FORM 4YEH_FINAL_FORM 4HAMZA_ABOVE_WITH_JEEM_INITIAL_FORM 7HAH_INITIAL_FORM
7KHAH_INITIAL_FORM 7MEEM_INITIAL_FORM 7HEH_INITIAL_FORM 2BEH_WITH_JEEM_INITIAL_FORM
4HAH_INITIAL_FORM 4KHAH_INITIAL_FORM 4MEEM_INITIAL_FORM 4HEH_INITIAL_FORM
2TEH_WITH_JEEM_INITIAL_FORM 4HAH_INITIAL_FORM 4KHAH_INITIAL_FORM 4MEEM_INITIAL_FORM
4HEH_INITIAL_FORM 2THEH_WITH_MEEM_INITIAL_FORM 2JEEM_WITH_HAH_INITIAL_FORM 4MEEM_INITIAL_FORM
2HAH_WITH_JEEM_INITIAL_FORM 4MEEM_INITIAL_FORM 2KHAH_WITH_JEEM_INITIAL_FORM 4MEEM_INITIAL_FORM
2SEEN_WITH_JEEM_INITIAL_FORM 4HAH_INITIAL_FORM 4KHAH_INITIAL_FORM 4MEEM_INITIAL_FORM
2SAD_WITH_HAH_INITIAL_FORM 4KHAH_INITIAL_FORM 4MEEM_INITIAL_FORM 2DAD_WITH_JEEM_INITIAL_FORM
4HAH_INITIAL_FORM 4KHAH_INITIAL_FORM 4MEEM_INITIAL_FORM 2TAH_WITH_HAH_INITIAL_FORM
2ZAH_WITH_MEEM_INITIAL_FORM 2AIN_WITH_JEEM_INITIAL_FORM 4MEEM_INITIAL_FORM
2GHAIN_WITH_JEEM_INITIAL_FORM 4MEEM_INITIAL_FORM 2FEH_WITH_JEEM_INITIAL_FORM 4HAH_INITIAL_FORM
4KHAH_INITIAL_FORM 4MEEM_INITIAL_FORM 2QAF_WITH_HAH_INITIAL_FORM 4MEEM_INITIAL_FORM
2KAF_WITH_JEEM_INITIAL_FORM 4HAH_INITIAL_FORM 4KHAH_INITIAL_FORM 4LAM_INITIAL_FORM
4MEEM_INITIAL_FORM 2LAM_WITH_JEEM_INITIAL_FORM 4HAH_INITIAL_FORM 4KHAH_INITIAL_FORM
4MEEM_INITIAL_FORM 4HEH_INITIAL_FORM 2MEEM_WITH_JEEM_INITIAL_FORM 4HAH_INITIAL_FORM
4KHAH_INITIAL_FORM 4MEEM_INITIAL_FORM 2NOON_WITH_JEEM_INITIAL_FORM 4HAH_INITIAL_FORM
4KHAH_INITIAL_FORM 4MEEM_INITIAL_FORM 4HEH_INITIAL_FORM 2HEH_WITH_JEEM_INITIAL_FORM
4MEEM_INITIAL_FORM 4SUPERSCRIPT_ALEF_INITIAL_FORM 2YEH_WITH_JEEM_INITIAL_FORM 4HAH_INITIAL_FORM
4KHAH_INITIAL_FORM 4MEEM_INITIAL_FORM 4HEH_INITIAL_FORM 4HAMZA_ABOVE_WITH_MEEM_MEDIAL_FORM
7HEH_MEDIAL_FORM 2BEH_WITH_MEEM_MEDIAL_FORM 4HEH_MEDIAL_FORM 2TEH_WITH_MEEM_MEDIAL_FORM
4HEH_MEDIAL_FORM 2THEH_WITH_MEEM_MEDIAL_FORM 4HEH_MEDIAL_FORM 2SEEN_WITH_MEEM_MEDIAL_FORM
4HEH_MEDIAL_FORM 2SHEEN_WITH_MEEM_MEDIAL_FORM 4HEH_MEDIAL_FORM 2KAF_WITH_LAM_MEDIAL_FORM
4MEEM_MEDIAL_FORM 2LAM_WITH_MEEM_MEDIAL_FORM 2NOON_WITH_MEEM_MEDIAL_FORM 4HEH_MEDIAL_FORM
2YEH_WITH_MEEM_MEDIAL_FORM 4HEH_MEDIAL_FORM 2SHADDA_WITH_FATHA_MEDIAL_FORM 4DAMMA_MEDIAL_FORM
4KASRA_MEDIAL_FORM 2TAH_WITH_ALEF_MAKSURA_ISOLATED_FORM 4YEH_ISOLATED_FORM
2AIN_WITH_ALEF_MAKSURA_ISOLATED_FORM 4YEH_ISOLATED_FORM 2GHAIN_WITH_ALEF_MAKSURA_ISOLATED_FORM
4YEH_ISOLATED_FORM 2SEEN_WITH_ALEF_MAKSURA_ISOLATED_FORM 4YEH_ISOLATED_FORM
2SHEEN_WITH_ALEF_MAKSURA_ISOLATED_FORM 4YEH_ISOLATED_FORM 2HAH_WITH_ALEF_MAKSURA_ISOLATED_FORM
4YEH_ISOLATED_FORM 2JEEM_WITH_ALEF_MAKSURA_ISOLATED_FORM 4YEH_ISOLATED_FORM
2KHAH_WITH_ALEF_MAKSURA_ISOLATED_FORM 4YEH_ISOLATED_FORM 2SAD_WITH_ALEF_MAKSURA_ISOLATED_FORM
4YEH_ISOLATED_FORM 2DAD_WITH_ALEF_MAKSURA_ISOLATED_FORM 4YEH_ISOLATED_FORM
2SHEEN_WITH_JEEM_ISOLATED_FORM 4HAH_ISOLATED_FORM 4KHAH_ISOLATED_FORM 4MEEM_ISOLATED_FORM
4REH_ISOLATED_FORM 2SEEN_WITH_REH_ISOLATED_FORM 2SAD_WITH_REH_ISOLATED_FORM
2DAD_WITH_REH_ISOLATED_FORM 2TAH_WITH_ALEF_MAKSURA_FINAL_FORM 4YEH_FINAL_FORM
2AIN_WITH_ALEF_MAKSURA_FINAL_FORM 4YEH_FINAL_FORM 2GHAIN_WITH_ALEF_MAKSURA_FINAL_FORM
4YEH_FINAL_FORM 2SEEN_WITH_ALEF_MAKSURA_FINAL_FORM 4YEH_FINAL_FORM
2SHEEN_WITH_ALEF_MAKSURA_FINAL_FORM 4YEH_FINAL_FORM 2HAH_WITH_ALEF_MAKSURA_FINAL_FORM
4YEH_FINAL_FORM 2JEEM_WITH_ALEF_MAKSURA_FINAL_FORM 4YEH_FINAL_FORM
2KHAH_WITH_ALEF_MAKSURA_FINAL_FORM 4YEH_FINAL_FORM 2SAD_WITH_ALEF_MAKSURA_FINAL_FORM
4YEH_FINAL_FORM 2DAD_WITH_ALEF_MAKSURA_FINAL_FORM 4YEH_FINAL_FORM 2SHEEN_WITH_JEEM_FINAL_FORM
4HAH_FINAL_FORM 4KHAH_FINAL_FORM 4MEEM_FINAL_FORM 4REH_FINAL_FORM 2SEEN_WITH_REH_FINAL_FORM
2SAD_WITH_REH_FINAL_FORM 2DAD_WITH_REH_FINAL_FORM 2SHEEN_WITH_JEEM_INITIAL_FORM 4HAH_INITIAL_FORM
4KHAH_INITIAL_FORM 4MEEM_INITIAL_FORM 2SEEN_WITH_HEH_INITIAL_FORM 2SHEEN_WITH_HEH_INITIAL_FORM
2TAH_WITH_MEEM_INITIAL_FORM 2SEEN_WITH_JEEM_MEDIAL_FORM 4HAH_MEDIAL_FORM 4KHAH_MEDIAL_FORM
2SHEEN_WITH_JEEM_MEDIAL_FORM 4HAH_MEDIAL_FORM 4KHAH_MEDIAL_FORM 2TAH_WITH_MEEM_MEDIAL_FORM
2ZAH_WITH_MEEM_MEDIAL_FORM 2ALEF_WITH_FATHATAN_FINAL_FORM 5ISOLATED_FORM 0ORNATE_LEFT_PARENTHESIS
1RIGHT_PARENTHESIS 0ARABIC_LIGATURE_RAHIMAHU_ALLAAH 2RADI_ALLAAHU_ANH 4ANHAA 4ANHUM 4ANHUMAA
4ANHUNNA 2SALLALLAAHU_ALAYHI_WA-AALIH 2ALAYHI_AS-SALAAM 2ALAYHIM_AS-SALAAM 2ALAYHIMAA_AS-SALAAM
2ALAYHI_AS-SALAATU_WAS-SALAAM 2QUDDISA_SIRRAH 2SALLALLAHU_ALAYHI_WAAALIHEE_WA-SALLAM
2ALAYHAA_AS-SALAAM 2TABAARAKA_WA-TAAALAA 2RAHIMAHUM_ALLAAH 2TEH_WITH_JEEM_WITH_MEEM_INITIAL_FORM
4HAH_WITH_JEEM_FINAL_FORM 7INITIAL_FORM 6MEEM_INITIAL_FORM 4KHAH_WITH_MEEM_INITIAL_FORM
4MEEM_WITH_JEEM_INITIAL_FORM 6HAH_INITIAL_FORM 6KHAH_INITIAL_FORM
2JEEM_WITH_MEEM_WITH_HAH_FINAL_FORM 7INITIAL_FORM 2HAH_WITH_MEEM_WITH_YEH_FINAL_FORM
6ALEF_MAKSURA_FINAL_FORM 2SEEN_WITH_HAH_WITH_JEEM_INITIAL_FORM 4JEEM_WITH_HAH_INITIAL_FORM
6ALEF_MAKSURA_FINAL_FORM 4MEEM_WITH_HAH_FINAL_FORM 7INITIAL_FORM 6JEEM_INITIAL_FORM
6MEEM_FINAL_FORM 7INITIAL_FORM 2SAD_WITH_HAH_WITH_HAH_FINAL_FORM 7INITIAL_FORM
4MEEM_WITH_MEEM_FINAL_FORM 2SHEEN_WITH_HAH_WITH_MEEM_FINAL_FORM 7INITIAL_FORM
4JEEM_WITH_YEH_FINAL_FORM 4MEEM_WITH_KHAH_FINAL_FORM 7INITIAL_FORM 6MEEM_FINAL_FORM 7INITIAL_FORM
2DAD_WITH_HAH_WITH_ALEF_MAKSURA_FINAL_FORM 4KHAH_WITH_MEEM_FINAL_FORM 7INITIAL_FORM
2TAH_WITH_MEEM_WITH_HAH_FINAL_FORM 7INITIAL_FORM 6MEEM_INITIAL_FORM 6YEH_FINAL_FORM
2AIN_WITH_JEEM_WITH_MEEM_FINAL_FORM 4MEEM_WITH_MEEM_FINAL_FORM 7INITIAL_FORM
6ALEF_MAKSURA_FINAL_FORM 2GHAIN_WITH_MEEM_WITH_MEEM_FINAL_FORM 6YEH_FINAL_FORM
6ALEF_MAKSURA_FINAL_FORM 2FEH_WITH_KHAH_WITH_MEEM_FINAL_FORM 7INITIAL_FORM
2QAF_WITH_MEEM_WITH_HAH_FINAL_FORM 6MEEM_FINAL_FORM 2LAM_WITH_HAH_WITH_MEEM_FINAL_FORM
6YEH_FINAL_FORM 6ALEF_MAKSURA_FINAL_FORM 4JEEM_WITH_JEEM_INITIAL_FORM 7FINAL_FORM
4KHAH_WITH_MEEM_FINAL_FORM 7INITIAL_FORM 4MEEM_WITH_HAH_FINAL_FORM 7INITIAL_FORM
2MEEM_WITH_HAH_WITH_JEEM_INITIAL_FORM 6MEEM_INITIAL_FORM 6YEH_FINAL_FORM
4JEEM_WITH_HAH_INITIAL_FORM 6MEEM_INITIAL_FORM 4KHAH_WITH_JEEM_INITIAL_FORM 6MEEM_INITIAL_FORM
@FD92 4JEEM_WITH_KHAH_INITIAL_FORM 2HEH_WITH_MEEM_WITH_JEEM_INITIAL_FORM 6MEEM_INITIAL_FORM
2NOON_WITH_HAH_WITH_MEEM_INITIAL_FORM 6ALEF_MAKSURA_FINAL_FORM 4JEEM_WITH_MEEM_FINAL_FORM
7INITIAL_FORM 6ALEF_MAKSURA_FINAL_FORM 4MEEM_WITH_YEH_FINAL_FORM 6ALEF_MAKSURA_FINAL_FORM
2YEH_WITH_MEEM_WITH_MEEM_FINAL_FORM 7INITIAL_FORM 2BEH_WITH_KHAH_WITH_YEH_FINAL_FORM
2TEH_WITH_JEEM_WITH_YEH_FINAL_FORM 6ALEF_MAKSURA_FINAL_FORM 4KHAH_WITH_YEH_FINAL_FORM
6ALEF_MAKSURA_FINAL_FORM 4MEEM_WITH_YEH_FINAL_FORM 6ALEF_MAKSURA_FINAL_FORM
2JEEM_WITH_MEEM_WITH_YEH_FINAL_FORM 4HAH_WITH_ALEF_MAKSURA_FINAL_FORM
4MEEM_WITH_ALEF_MAKSURA_FINAL_FORM 2SEEN_WITH_KHAH_WITH_ALEF_MAKSURA_FINAL_FORM
2SAD_WITH_HAH_WITH_YEH_FINAL_FORM 2SHEEN_WITH_HAH_WITH_YEH_FINAL_FORM
2DAD_WITH_HAH_WITH_YEH_FINAL_FORM 2LAM_WITH_JEEM_WITH_YEH_FINAL_FORM 4MEEM_WITH_YEH_FINAL_FORM
2YEH_WITH_HAH_WITH_YEH_FINAL_FORM 4JEEM_WITH_YEH_FINAL_FORM 4MEEM_WITH_YEH_FINAL_FORM
2MEEM_WITH_MEEM_WITH_YEH_FINAL_FORM 2QAF_WITH_MEEM_WITH_YEH_FINAL_FORM
2NOON_WITH_HAH_WITH_YEH_FINAL_FORM 2QAF_WITH_MEEM_WITH_HAH_INITIAL_FORM
2LAM_WITH_HAH_WITH_MEEM_INITIAL_FORM 2AIN_WITH_MEEM_WITH_YEH_FINAL_FORM
2KAF_WITH_MEEM_WITH_YEH_FINAL_FORM 2NOON_WITH_JEEM_WITH_HAH_INITIAL_FORM
2MEEM_WITH_KHAH_WITH_YEH_FINAL_FORM 2LAM_WITH_JEEM_WITH_MEEM_INITIAL_FORM
2KAF_WITH_MEEM_WITH_MEEM_FINAL_FORM 2LAM_WITH_JEEM_WITH_MEEM_FINAL_FORM
2NOON_WITH_JEEM_WITH_HAH_FINAL_FORM 2JEEM_WITH_HAH_WITH_YEH_FINAL_FORM
2HAH_WITH_JEEM_WITH_YEH_FINAL_FORM 2MEEM_WITH_JEEM_WITH_YEH_FINAL_FORM
2FEH_WITH_MEEM_WITH_YEH_FINAL_FORM 2BEH_WITH_HAH_WITH_YEH_FINAL_FORM
2KAF_WITH_MEEM_WITH_MEEM_INITIAL_FORM 2AIN_WITH_JEEM_WITH_MEEM_INITIAL_FORM
2SAD_WITH_MEEM_WITH_MEEM_INITIAL_FORM 2SEEN_WITH_KHAH_WITH_YEH_FINAL_FORM
2NOON_WITH_JEEM_WITH_YEH_FINAL_FORM @FDCF 2SALAAMUHU_ALAYNAA @FDF0
2SALLA_USED_AS_KORANIC_STOP_SIGN_ISOLATED_FORM 2QALA_USED_AS_KORANIC_STOP_SIGN_ISOLATED_FORM
2ALLAH_ISOLATED_FORM 2AKBAR_ISOLATED_FORM 2MOHAMMAD_ISOLATED_FORM 2SALAM_ISOLATED_FORM
2RASOUL_ISOLATED_FORM 2ALAYHE_ISOLATED_FORM 2WASALLAM_ISOLATED_FORM 2SALLA_ISOLATED_FORM
2SALLALLAHOU_ALAYHE_WASALLAM 2JALLAJALALOUHOU 0RIAL_SIGN
0ARABIC_LIGATURE_BISMILLAH_AR-RAHMAN_AR-RAHEEM 2SUBHAANAHU_WA_TAAALAA 2AZZA_WA_JALL
0VARIATION_SELECTOR-1 + + + + + + + + 1SELECTOR-10 + + + + + +
0PRESENTATION_FORM_FOR_VERTICAL_COMMA 4IDEOGRAPHIC_COMMA 5FULL_STOP 4COLON 4SEMICOLON
4EXCLAMATION_MARK 4QUESTION_MARK 4LEFT_WHITE_LENTICULAR_BRACKET 4RIGHT_WHITE_LENTICULAR_BRAKCET
4HORIZONTAL_ELLIPSIS @FE20 0COMBINING_LIGATURE_LEFT_HALF 2RIGHT_HALF 1DOUBLE_TILDE_LEFT_HALF
3RIGHT_HALF 1MACRON_LEFT_HALF 2RIGHT_HALF 1CONJOINING_MACRON 1LIGATURE_LEFT_HALF_BELOW
2RIGHT_HALF_BELOW 1TILDE_LEFT_HALF_BELOW 2RIGHT_HALF_BELOW 1MACRON_LEFT_HALF_BELOW
2RIGHT_HALF_BELOW 1CONJOINING_MACRON_BELOW 1CYRILLIC_TITLO_LEFT_HALF 3RIGHT_HALF
0PRESENTATION_FORM_FOR_VERTICAL_TWO_DOT_LEADER 4EM_DASH 4EN_DASH 4LOW_LINE 4WAVY_LOW_LINE
4LEFT_PARENTHESIS 4RIGHT_PARENTHESIS 4LEFT_CURLY_BRACKET 4RIGHT_CURLY_BRACKET
4LEFT_TORTOISE_SHELL_BRACKET 4RIGHT_TORTOISE_SHELL_BRACKET 4LEFT_BLACK_LENTICULAR_BRACKET
4RIGHT_BLACK_LENTICULAR_BRACKET 4LEFT_DOUBLE_ANGLE_BRACKET 4RIGHT_DOUBLE_ANGLE_BRACKET
4LEFT_ANGLE_BRACKET 4RIGHT_ANGLE_BRACKET 4LEFT_CORNER_BRACKET 4RIGHT_CORNER_BRACKET
4LEFT_WHITE_CORNER_BRACKET 4RIGHT_WHITE_CORNER_BRACKET 0SESAME_DOT 0WHITE_SESAME_DOT
0PRESENTATION_FORM_FOR_VERTICAL_LEFT_SQUARE_BRACKET 4RIGHT_SQUARE_BRACKET 0DASHED_OVERLINE
0CENTRELINE_OVERLINE 0WAVY_OVERLINE 0DOUBLE_WAVY_OVERLINE 0DASHED_LOW_LINE 0CENTRELINE_LOW_LINE
0WAVY_LOW_LINE 0SMALL_COMMA 1IDEOGRAPHIC_COMMA 1FULL_STOP @FE54 1SEMICOLON 1COLON 1QUESTION_MARK
1EXCLAMATION_MARK 1EM_DASH 1LEFT_PARENTHESIS 1RIGHT_PARENTHESIS 1LEFT_CURLY_BRACKET
1RIGHT_CURLY_BRACKET 1LEFT_TORTOISE_SHELL_BRACKET 1RIGHT_TORTOISE_SHELL_BRACKET 1NUMBER_SIGN
1AMPERSAND 1ASTERISK 1PLUS_SIGN 1HYPHEN-MINUS 1LESS-THAN_SIGN 1GREATER-THAN_SIGN 1EQUALS_SIGN
@FE68 1REVERSE_SOLIDUS 1DOLLAR_SIGN 1PERCENT_SIGN 1COMMERCIAL_AT @FE70
0ARABIC_FATHATAN_ISOLATED_FORM 1TATWEEL_WITH_FATHATAN_ABOVE 1DAMMATAN_ISOLATED_FORM 1TAIL_FRAGMENT
1KASRATAN_ISOLATED_FORM @FE76 1FATHA_ISOLATED_FORM 2MEDIAL_FORM 1DAMMA_ISOLATED_FORM 2MEDIAL_FORM
1KASRA_ISOLATED_FORM 2MEDIAL_FORM 1SHADDA_ISOLATED_FORM 2MEDIAL_FORM 1SUKUN_ISOLATED_FORM
2MEDIAL_FORM 1LETTER_HAMZA_ISOLATED_FORM 2ALEF_WITH_MADDA_ABOVE_ISOLATED_FORM 6FINAL_FORM
4HAMZA_ABOVE_ISOLATED_FORM 6FINAL_FORM 2WAW_WITH_HAMZA_ABOVE_ISOLATED_FORM 6FINAL_FORM
2ALEF_WITH_HAMZA_BELOW_ISOLATED_FORM 6FINAL_FORM 2YEH_WITH_HAMZA_ABOVE_ISOLATED_FORM 6FINAL_FORM
6INITIAL_FORM 6MEDIAL_FORM 2ALEF_ISOLATED_FORM 3FINAL_FORM 2BEH_ISOLATED_FORM 3FINAL_FORM
3INITIAL_FORM 3MEDIAL_FORM 2TEH_MARBUTA_ISOLATED_FORM 4FINAL_FORM 3ISOLATED_FORM 3FINAL_FORM
3INITIAL_FORM 3MEDIAL_FORM 2THEH_ISOLATED_FORM 3FINAL_FORM 3INITIAL_FORM 3MEDIAL_FORM
2JEEM_ISOLATED_FORM 3FINAL_FORM 3INITIAL_FORM 3MEDIAL_FORM 2HAH_ISOLATED_FORM 3FINAL_FORM
3INITIAL_FORM 3MEDIAL_FORM 2KHAH_ISOLATED_FORM 3FINAL_FORM 3INITIAL_FORM 3MEDIAL_FORM
2DAL_ISOLATED_FORM 3FINAL_FORM 2THAL_ISOLATED_FORM 3FINAL_FORM 2REH_ISOLATED_FORM 3FINAL_FORM
2ZAIN_ISOLATED_FORM 3FINAL_FORM 2SEEN_ISOLATED_FORM 3FINAL_FORM 3INITIAL_FORM 3MEDIAL_FORM
2SHEEN_ISOLATED_FORM 3FINAL_FORM 3INITIAL_FORM 3MEDIAL_FORM 2SAD_ISOLATED_FORM 3FINAL_FORM
3INITIAL_FORM 3MEDIAL_FORM 2DAD_ISOLATED_FORM 3FINAL_FORM 3INITIAL_FORM 3MEDIAL_FORM
2TAH_ISOLATED_FORM 3FINAL_FORM 3INITIAL_FORM 3MEDIAL_FORM 2ZAH_ISOLATED_FORM 3FINAL_FORM
3INITIAL_FORM 3MEDIAL_FORM 2AIN_ISOLATED_FORM 3FINAL_FORM 3INITIAL_FORM 3MEDIAL_FORM
2GHAIN_ISOLATED_FORM 3FINAL_FORM 3INITIAL_FORM 3MEDIAL_FORM 2FEH_ISOLATED_FORM 3FINAL_FORM
3INITIAL_FORM 3MEDIAL_FORM 2QAF_ISOLATED_FORM 3FINAL_FORM 3INITIAL_FORM 3MEDIAL_FORM
2KAF_ISOLATED_FORM 3FINAL_FORM 3INITIAL_FORM 3MEDIAL_FORM 2LAM_ISOLATED_FORM 3FINAL_FORM
3INITIAL_FORM 3MEDIAL_FORM 2MEEM_ISOLATED_FORM 3FINAL_FORM 3INITIAL_FORM 3MEDIAL_FORM
2NOON_ISOLATED_FORM 3FINAL_FORM 3INITIAL_FORM 3MEDIAL_FORM 2HEH_ISOLATED_FORM 3FINAL_FORM
3INITIAL_FORM 3MEDIAL_FORM 2WAW_ISOLATED_FORM 3FINAL_FORM 2ALEF_MAKSURA_ISOLATED_FORM 4FINAL_FORM
2YEH_ISOLATED_FORM 3FINAL_FORM 3INITIAL_FORM 3MEDIAL_FORM
1LIGATURE_LAM_WITH_ALEF_WITH_MADDA_ABOVE_ISOLATED_FORM 8FINAL_FORM 6HAMZA_ABOVE_ISOLATED_FORM
8FINAL_FORM 7BELOW_ISOLATED_FORM 8FINAL_FORM 5ISOLATED_FORM 5FINAL_FORM @FEFF
0ZERO_WIDTH_NO-BREAK_SPACE @FF01 0FULLWIDTH_EXCLAMATION_MARK 1QUOTATION_MARK 1NUMBER_SIGN
1DOLLAR_SIGN 1PERCENT_SIGN 1AMPERSAND 1APOSTROPHE 1LEFT_PARENTHESIS 1RIGHT_PARENTHESIS 1ASTERISK
1PLUS_SIGN 1COMMA 1HYPHEN-MINUS 1FULL_STOP 1SOLIDUS 1DIGIT_ZERO 2ONE 2TWO 2THREE 2FOUR 2FIVE 2SIX
2SEVEN 2EIGHT 2NINE 1COLON 1SEMICOLON 1LESS-THAN_SIGN 1EQUALS_SIGN 1GREATER-THAN_SIGN
1QUESTION_MARK 1COMMERCIAL_AT 1LATIN_CAPITAL_LETTER_A 4B 4C 4D 4E 4F 4G 4H 4I 4J 4K 4L 4M 4N 4O 4P
4Q 4R 4S 4T 4U 4V 4W 4X 4Y 4Z 1LEFT_SQUARE_BRACKET 1REVERSE_SOLIDUS 1RIGHT_SQUARE_BRACKET
1CIRCUMFLEX_ACCENT 1LOW_LINE 1GRAVE_ACCENT 1LATIN_SMALL_LETTER_A 4B 4C 4D 4E 4F 4G 4H 4I 4J 4K 4L
4M 4N 4O 4P 4Q 4R 4S 4T 4U 4V 4W 4X 4Y 4Z 1LEFT_CURLY_BRACKET 1VERTICAL_LINE 1RIGHT_CURLY_BRACKET
1TILDE 1LEFT_WHITE_PARENTHESIS 1RIGHT_WHITE_PARENTHESIS 0HALFWIDTH_IDEOGRAPHIC_FULL_STOP
1LEFT_CORNER_BRACKET 1RIGHT_CORNER_BRACKET 1IDEOGRAPHIC_COMMA 1KATAKANA_MIDDLE_DOT 2LETTER_WO
3SMALL_A 4I 4U 4E 4O 4YA 4YU 4YO 4TU 1KATAKANA-HIRAGANA_PROLONGED_SOUND_MARK 1KATAKANA_LETTER_A 3I
3U 3E 3O 3KA 3KI 3KU 3KE 3KO 3SA 3SI 3SU 3SE 3SO 3TA 3TI 3TU 3TE 3TO 3NA 3NI 3NU 3NE 3NO 3HA 3HI
3HU 3HE 3HO 3MA 3MI 3MU 3ME 3MO 3YA 3YU 3YO 3RA 3RI 3RU 3RE 3RO 3WA 3N 2VOICED_SOUND_MARK
2SEMI-VOICED_SOUND_MARK 1HANGUL_FILLER 2LETTER_KIYEOK 3SSANGKIYEOK 3KIYEOK-SIOS 3NIEUN
3NIEUN-CIEUC 3NIEUN-HIEUH 3TIKEUT 3SSANGTIKEUT 3RIEUL 3RIEUL-KIYEOK 3RIEUL-MIEUM 3RIEUL-PIEUP
3RIEUL-SIOS 3RIEUL-THIEUTH 3RIEUL-PHIEUPH 3RIEUL-HIEUH 3MIEUM 3PIEUP 3SSANGPIEUP 3PIEUP-SIOS 3SIOS
3SSANGSIOS 3IEUNG 3CIEUC 3SSANGCIEUC 3CHIEUCH 3KHIEUKH 3THIEUTH 3PHIEUPH 3HIEUH @FFC2 3A 3AE 3YA
3YAE 3EO 3E @FFCA 3YEO 3YE 3O 3WA 3WAE 3OE @FFD2 3YO 3U 3WEO 3WE 3WI 3YU @FFDA 3EU 3YI 3I @FFE0
0FULLWIDTH_CENT_SIGN 1POUND_SIGN 1NOT_SIGN 1MACRON 1BROKEN_BAR 1YEN_SIGN 1WON_SIGN @FFE8
0HALFWIDTH_FORMS_LIGHT_VERTICAL 1LEFTWARDS_ARROW 1UPWARDS_ARROW 1RIGHTWARDS_ARROW 1DOWNWARDS_ARROW
1BLACK_SQUARE 1WHITE_CIRCLE @FFF9 0INTERLINEAR_ANNOTATION_ANCHOR 2SEPARATOR 2TERMINATOR
0OBJECT_REPLACEMENT_CHARACTER 0REPLACEMENT_CHARACTER"

end Rubric.Text.CharacterName
