namespace Oneliner
namespace Text
namespace CharacterName

/-!
Names of characters: pictures.
-/

/-- The names of the characters from 1F300 to 1F64F, 1F680 to 1F6FF and 1F900 to 1F9FF, in
short form. -/
def pictures : List String :=
  ["1F300=0CYCLONE|0FOGGY|0CLOSED UMBRELLA|0NIGHT z STARS|0SUNRISE OVER MOUNTAINS|1",
   "0CITYSCAPE AT DUSK|0SUNSET OVER BUILDINGS|0RAINBOW|0BRIDGE AT NIGHT|0WATER WAVE|0VOLCANO",
   "0MILKY WAY|0EARTH GLOBE EUROPE-AFRICA|2AMERICAS|2ASIA-AUSTRALIA|0GLOBE z MERIDIANS|0NEW MOON u",
   "0WAXING CRESCENT MOON u|0FIRST QUARTER MOON u|0WAXING GIBBOUS MOON u|0FULL MOON u",
   "0WANING GIBBOUS MOON u|0LAST QUARTER MOON u|0WANING CRESCENT MOON u|0CRESCENT MOON",
   "0NEW MOON z FACE|0FIRST QUARTER MOON z FACE|0LAST QUARTER MOON z FACE|0FULL MOON z FACE",
   "0SUN z FACE|0GLOWING STAR|0SHOOTING STAR|0THERMOMETER|0e DROPLET|0y SUN|2z s CLOUD",
   "2BEHIND CLOUD|4z RAIN|0CLOUD z RAIN|2SNOW|2LIGHTNING|2TORNADO|0FOG|0WIND BLOWING FACE|0HOT DOG",
   "0TACO|0BURRITO|0CHESTNUT|0SEEDLING|0EVERGREEN TREE|0DECIDUOUS TREE|0PALM TREE|0CACTUS",
   "0HOT PEPPER|0TULIP|0CHERRY BLOSSOM|0ROSE|0HIBISCUS|0SUNFLOWER|0BLOSSOM|0EAR OF MAIZE|2RICE",
   "0HERB|0FOUR LEAF CLOVER|0MAPLE LEAF|0FALLEN LEAF|0LEAF FLUTTERING IN WIND|0MUSHROOM|0TOMATO",
   "0AUBERGINE|0GRAPES|0MELON|0WATERMELON|0TANGERINE|0LEMON|0BANANA|0PINEAPPLE|0RED APPLE",
   "0GREEN APPLE|0PEAR|0PEACH|0CHERRIES|0STRAWBERRY|0HAMBURGER|0SLICE OF PIZZA|0MEAT ON BONE",
   "0POULTRY LEG|0RICE CRACKER|1BALL|0COOKED RICE|0CURRY b RICE|0STEAMING BOWL|0SPAGHETTI|0BREAD",
   "0FRENCH FRIES|0ROASTED SWEET POTATO|0DANGO|0ODEN|0SUSHI|0FRIED SHRIMP",
   "0FISH CAKE z SWIRL DESIGN|0SOFT ICE CREAM|0SHAVED ICE|0ICE CREAM|0DOUGHNUT|0COOKIE",
   "0CHOCOLATE BAR|0CANDY|0LOLLIPOP|0CUSTARD|0HONEY POT|0SHORTCAKE|0BENTO BOX|0POT OF FOOD",
   "0COOKING|0FORK b KNIFE|0TEACUP WITHOUT HANDLE|0SAKE BOTTLE b CUP|0WINE GLASS|0COCKTAIL GLASS",
   "0TROPICAL DRINK|0BEER MUG|0CLINKING BEER MUGS|0BABY BOTTLE|0FORK b KNIFE z PLATE",
   "0BOTTLE z POPPING CORK|0POPCORN|0RIBBON|0WRAPPED PRESENT|0BIRTHDAY CAKE|0JACK-O-LANTERN",
   "0CHRISTMAS TREE|0FATHER CHRISTMAS|0FIREWORKS|0FIREWORK SPARKLER|0BALLOON|0PARTY POPPER",
   "0CONFETTI BALL|0TANABATA TREE|0CROSSED FLAGS|0PINE DECORATION|0JAPANESE DOLLS|0CARP STREAMER",
   "0WIND CHIME|0MOON VIEWING CEREMONY|0SCHOOL SATCHEL|0GRADUATION CAP|0HEART z TIP ON THE m",
   "0BOUQUET OF FLOWERS|0MILITARY MEDAL|0REMINDER RIBBON|0MUSICAL KEYBOARD z JACKS",
   "0STUDIO MICROPHONE|0LEVEL SLIDER|0CONTROL KNOBS|0BEAMED ASCENDING MUSICAL NOTES",
   "1DESCENDING MUSICAL NOTES|0FILM FRAMES|0ADMISSION TICKETS|0CAROUSEL HORSE|0FERRIS WHEEL",
   "0ROLLER COASTER|0FISHING POLE b FISH|0MICROPHONE|0MOVIE CAMERA|0CINEMA|0HEADPHONE",
   "0ARTIST PALETTE|0TOP HAT|0CIRCUS TENT|0TICKET|0CLAPPER BOARD|0PERFORMING ARTS|0VIDEO GAME",
   "0DIRECT HIT|0SLOT MACHINE|0BILLIARDS|0GAME DIE|0BOWLING|0FLOWER PLAYING CARDS|0MUSICAL NOTE",
   "0MULTIPLE MUSICAL NOTES|0SAXOPHONE|0GUITAR|0MUSICAL KEYBOARD|0TRUMPET|0VIOLIN|0MUSICAL SCORE",
   "0RUNNING SHIRT z SASH|0TENNIS RACQUET b BALL|0SKI b SKI BOOT|0BASKETBALL b HOOP",
   "0CHEQUERED FLAG|0SNOWBOARDER|0RUNNER|0SURFER|0SPORTS MEDAL|0TROPHY|0HORSE RACING",
   "0AMERICAN FOOTBALL|0RUGBY FOOTBALL|0SWIMMER|0WEIGHT LIFTER|0GOLFER|0RACING MOTORCYCLE|1CAR",
   "0CRICKET BAT b BALL|0VOLLEYBALL|0FIELD HOCKEY STICK b BALL|0ICE HOCKEY STICK b PUCK",
   "0TABLE TENNIS PADDLE b BALL|0SNOW CAPPED MOUNTAIN|0CAMPING|0BEACH z UMBRELLA",
   "0BUILDING CONSTRUCTION|0HOUSE BUILDINGS|0CITYSCAPE|0DERELICT HOUSE BUILDING",
   "0CLASSICAL BUILDING|0DESERT|1ISLAND|0NATIONAL PARK|0STADIUM|0HOUSE BUILDING|1z GARDEN",
   "0OFFICE BUILDING|0JAPANESE POST OFFICE|0EUROPEAN POST OFFICE|0HOSPITAL|0BANK",
   "0AUTOMATED TELLER MACHINE|0HOTEL|0LOVE HOTEL|0CONVENIENCE STORE|0SCHOOL|0DEPARTMENT STORE",
   "0FACTORY|0IZAKAYA LANTERN|0JAPANESE CASTLE|0EUROPEAN CASTLE|0y PENNANT|0e PENNANT",
   "0WAVING y FLAG|1e FLAG|0ROSETTE|0e ROSETTE|0LABEL|0BADMINTON RACQUET b SHUTTLECOCK|0BOW b c",
   "0AMPHORA|0EMOJI MODIFIER FITZPATRICK TYPE-1-2|3TYPE-3|3TYPE-4|3TYPE-5|3TYPE-6|0RAT|0MOUSE|0OX",
   "0WATER BUFFALO|0COW|0TIGER|0LEOPARD|0RABBIT|0CAT|0DRAGON|0CROCODILE|0WHALE|0SNAIL|0SNAKE",
   "0HORSE|0RAM|0GOAT|0SHEEP|0MONKEY|0ROOSTER|0CHICKEN|0DOG|0PIG|0BOAR|0ELEPHANT|0OCTOPUS",
   "0SPIRAL SHELL|0BUG|0ANT|0HONEYBEE|0LADY BEETLE|0FISH|0TROPICAL FISH|0BLOWFISH|0TURTLE",
   "0HATCHING CHICK|0BABY CHICK|0FRONT-FACING BABY CHICK|0BIRD|0PENGUIN|0KOALA|0POODLE",
   "0DROMEDARY CAMEL|0BACTRIAN CAMEL|0DOLPHIN|0MOUSE FACE|0COW FACE|0TIGER FACE|0RABBIT FACE",
   "0CAT FACE|0DRAGON FACE|0SPOUTING WHALE|0HORSE FACE|0MONKEY FACE|0DOG FACE|0PIG FACE|0FROG FACE",
   "0HAMSTER FACE|0WOLF FACE|0BEAR FACE|0PANDA FACE|0PIG NOSE|0PAW PRINTS|0CHIPMUNK|0EYES|0EYE",
   "0EAR|0NOSE|0MOUTH|0TONGUE|0y UP POINTING BACKHAND INDEX|1DOWN POINTING BACKHAND INDEX",
   "1m POINTING BACKHAND INDEX|1p POINTING BACKHAND INDEX|0FISTED HAND r|0WAVING HAND r|0OK HAND r",
   "0THUMBS UP r|1DOWN r|0CLAPPING HANDS r|0OPEN HANDS r|0CROWN|0WOMANS HAT|0EYEGLASSES|0NECKTIE",
   "0T-SHIRT|0JEANS|0DRESS|0KIMONO|0BIKINI|0WOMANS CLOTHES|0PURSE|0HANDBAG|0POUCH|0MANS SHOE",
   "0ATHLETIC SHOE|0HIGH-HEELED SHOE|0WOMANS SANDAL|1BOOTS|0FOOTPRINTS|0BUST IN SILHOUETTE",
   "0BUSTS IN SILHOUETTE|0BOY|0GIRL|0MAN|0WOMAN|0FAMILY|0MAN b WOMAN HOLDING HANDS",
   "0TWO MEN HOLDING HANDS|1WOMEN HOLDING HANDS|0POLICE OFFICER|0WOMAN z BUNNY EARS|0BRIDE z VEIL",
   "0PERSON z BLOND HAIR|0MAN z GUA PI MAO|2TURBAN|0OLDER MAN|1WOMAN|0BABY|0CONSTRUCTION WORKER",
   "0PRINCESS|0JAPANESE OGRE|1GOBLIN|0GHOST|0BABY ANGEL|0EXTRATERRESTRIAL ALIEN|0ALIEN MONSTER",
   "0IMP|0SKULL|0INFORMATION DESK PERSON|0GUARDSMAN|0DANCER|0LIPSTICK|0NAIL POLISH|0FACE MASSAGE",
   "0HAIRCUT|0BARBER POLE|0SYRINGE|0PILL|0KISS MARK|0LOVE o|0RING|0GEM STONE|0KISS|0BOUQUET",
   "0COUPLE z HEART|0WEDDING|0BEATING HEART|0BROKEN HEART|0TWO HEARTS|0SPARKLING HEART",
   "0GROWING HEART|0HEART z c|0BLUE HEART|0GREEN HEART|0YELLOW HEART|0PURPLE HEART|0HEART z RIBBON",
   "0REVOLVING HEARTS|0HEART DECORATION|0DIAMOND SHAPE z A DOT INSIDE|0ELECTRIC LIGHT BULB",
   "0ANGER u|0BOMB|0SLEEPING u|0COLLISION u|0SPLASHING SWEAT u|0DROPLET|0DASH u|0PILE OF POO",
   "0FLEXED BICEPS|0DIZZY u|0SPEECH BALLOON|0THOUGHT BALLOON|0y FLOWER|0HUNDRED POINTS u",
   "0MONEY BAG|0CURRENCY EXCHANGE|0HEAVY DOLLAR r|0CREDIT CARD|0BANKNOTE z YEN r|2DOLLAR r|2EURO r",
   "2POUND r|0MONEY z WINGS|0CHART z UPWARDS TREND b YEN r|0SEAT|0PERSONAL COMPUTER|0BRIEFCASE",
   "0MINIDISC|0FLOPPY DISK|0OPTICAL DISC|0DVD|0FILE FOLDER|0OPEN FILE FOLDER|0PAGE z CURL",
   "1FACING UP|0CALENDAR|0TEAR-OFF CALENDAR|0CARD INDEX|0CHART z UPWARDS TREND|2DOWNWARDS TREND",
   "0BAR CHART|0CLIPBOARD|0PUSHPIN|0ROUND PUSHPIN|0PAPERCLIP|0STRAIGHT RULER|0TRIANGULAR RULER",
   "0BOOKMARK TABS|0LEDGER|0NOTEBOOK|1z DECORATIVE COVER|0CLOSED BOOK|0OPEN BOOK|0GREEN BOOK",
   "0BLUE BOOK|0ORANGE BOOK|0BOOKS|0NAME BADGE|0SCROLL|0MEMO|0TELEPHONE RECEIVER|0PAGER",
   "0FAX MACHINE|0SATELLITE ANTENNA|0PUBLIC ADDRESS LOUDSPEAKER|0CHEERING MEGAPHONE|0OUTBOX TRAY",
   "0INBOX TRAY|0PACKAGE|0E-MAIL u|0INCOMING ENVELOPE|0ENVELOPE z DOWNWARDS c a",
   "0CLOSED MAILBOX z LOWERED FLAG|3RAISED FLAG|0OPEN MAILBOX z RAISED FLAG|3LOWERED FLAG|0POSTBOX",
   "0POSTAL HORN|0NEWSPAPER|0MOBILE PHONE|2z q c AT m|0VIBRATION MODE|0MOBILE PHONE OFF",
   "0NO MOBILE PHONES|0ANTENNA z BARS|0CAMERA|1z FLASH|0VIDEO CAMERA|0TELEVISION|0RADIO",
   "0VIDEOCASSETTE|0FILM PROJECTOR|0PORTABLE STEREO|0PRAYER BEADS|0TWISTED q ARROWS",
   "0CLOCKWISE q b n OPEN CIRCLE ARROWS|7z CIRCLED ONE OVERLAY",
   "1DOWNWARDS b UPWARDS OPEN CIRCLE ARROWS|0ANTICLOCKWISE DOWNWARDS b UPWARDS OPEN CIRCLE ARROWS",
   "0LOW BRIGHTNESS u|0HIGH BRIGHTNESS u|0SPEAKER z CANCELLATION t|1|1z ONE SOUND WAVE",
   "2v SOUND WAVES|0BATTERY|0ELECTRIC PLUG|0LEFT-POINTING MAGNIFYING GLASS",
   "0RIGHT-POINTING MAGNIFYING GLASS|0LOCK z INK PEN|0CLOSED LOCK z KEY|0KEY|0LOCK|0OPEN LOCK",
   "0BELL|1z CANCELLATION t|0BOOKMARK|0LINK u|0RADIO BUTTON|0BACK z n c a|0END z n c a",
   "0ON z EXCLAMATION MARK z m p c a|0SOON z q c a|0TOP z UPWARDS c a|0NO ONE UNDER EIGHTEEN u",
   "0KEYCAP TEN|0INPUT u FOR LATIN f LETTERS|4s LETTERS|3NUMBERS|3SYMBOLS|3LATIN LETTERS|0FIRE",
   "0ELECTRIC TORCH|0WRENCH|0HAMMER|0NUT b BOLT|0HOCHO|0PISTOL|0MICROSCOPE|0TELESCOPE",
   "0CRYSTAL BALL|0SIX POINTED STAR z MIDDLE DOT|0JAPANESE u FOR BEGINNER|0TRIDENT EMBLEM",
   "0e SQUARE BUTTON|0y SQUARE BUTTON|0LARGE RED CIRCLE|1BLUE CIRCLE|1ORANGE DIAMOND|1BLUE DIAMOND",
   "0s ORANGE DIAMOND|1BLUE DIAMOND|0UP-POINTING RED TRIANGLE|0DOWN-POINTING RED TRIANGLE",
   "0UP-POINTING s RED TRIANGLE|0DOWN-POINTING s RED TRIANGLE|0LOWER p SHADOWED y CIRCLE",
   "0UPPER p SHADOWED y CIRCLE|0CIRCLED CROSS POMMEE|0CROSS POMMEE z HALF-CIRCLE d|2",
   "0NOTCHED m SEMICIRCLE z v DOTS|1p SEMICIRCLE z v DOTS|0u FOR MARKS CHAPTER|0y LATIN CROSS",
   "0HEAVY LATIN CROSS|0CELTIC CROSS|0OM u|0DOVE OF PEACE|0KAABA|0MOSQUE|0SYNAGOGUE",
   "0MENORAH z NINE BRANCHES|0BOWL OF HYGIEIA|0CLOCK FACE ONE OCLOCK|2TWO OCLOCK|2v OCLOCK",
   "2FOUR OCLOCK|2FIVE OCLOCK|2SIX OCLOCK|2SEVEN OCLOCK|2EIGHT OCLOCK|2NINE OCLOCK|2TEN OCLOCK",
   "2ELEVEN OCLOCK|2TWELVE OCLOCK|2ONE-THIRTY|2TWO-THIRTY|2THREE-THIRTY|2FOUR-THIRTY|2FIVE-THIRTY",
   "2SIX-THIRTY|2SEVEN-THIRTY|2EIGHT-THIRTY|2NINE-THIRTY|2TEN-THIRTY|2ELEVEN-THIRTY|2TWELVE-THIRTY",
   "0p SPEAKER|2z ONE SOUND WAVE|3v SOUND WAVES|0BULLHORN|1z SOUND WAVES|0RINGING BELL|0BOOK",
   "0CANDLE|0MANTELPIECE CLOCK|0e SKULL b CROSSBONES|0NO PIRACY|0HOLE",
   "0MAN IN BUSINESS SUIT LEVITATING|0SLEUTH OR SPY|0DARK SUNGLASSES|0SPIDER|1WEB|0JOYSTICK",
   "0MAN DANCING|0m HAND TELEPHONE RECEIVER|0TELEPHONE RECEIVER z PAGE|0p HAND TELEPHONE RECEIVER",
   "0y TOUCHTONE TELEPHONE|0e TOUCHTONE TELEPHONE|0TELEPHONE ON TOP OF MODEM",
   "0CLAMSHELL MOBILE PHONE|0BACK OF ENVELOPE|0STAMPED ENVELOPE|0ENVELOPE z LIGHTNING",
   "0FLYING ENVELOPE|0PEN OVER STAMPED ENVELOPE|0LINKED PAPERCLIPS|0e PUSHPIN|0LOWER m PENCIL",
   "2BALLPOINT PEN|2FOUNTAIN PEN|2PAINTBRUSH|2CRAYON|0m WRITING HAND|0TURNED OK HAND r",
   "0RAISED HAND z FINGERS SPLAYED|0REVERSED RAISED HAND z FINGERS SPLAYED|1THUMBS UP r|2DOWN r",
   "1VICTORY HAND|1HAND z MIDDLE FINGER EXTENDED|0RAISED HAND z PART BETWEEN MIDDLE b RING FINGERS",
   "0y DOWN POINTING m HAND INDEX|0SIDEWAYS y m POINTING INDEX|2p POINTING INDEX",
   "1e m POINTING INDEX|2p POINTING INDEX|0e m POINTING BACKHAND INDEX|1p POINTING BACKHAND INDEX",
   "0SIDEWAYS y UP POINTING INDEX|2DOWN POINTING INDEX|1e UP POINTING INDEX|2DOWN POINTING INDEX",
   "0e UP POINTING BACKHAND INDEX|1DOWN POINTING BACKHAND INDEX|1HEART|0DESKTOP COMPUTER",
   "0KEYBOARD b MOUSE|0v NETWORKED COMPUTERS|0PRINTER|0POCKET CALCULATOR|0e HARD SHELL FLOPPY DISK",
   "0y HARD SHELL FLOPPY DISK|0SOFT SHELL FLOPPY DISK|0TAPE CARTRIDGE|0WIRED KEYBOARD",
   "0ONE BUTTON MOUSE|0TWO BUTTON MOUSE|0v BUTTON MOUSE|0TRACKBALL|0OLD PERSONAL COMPUTER",
   "0HARD DISK|0SCREEN|0PRINTER ICON|0FAX ICON|0OPTICAL DISC ICON|0DOCUMENT z TEXT|3b PICTURE",
   "2PICTURE|0FRAME z PICTURE|2TILES|2AN X|0e FOLDER|0FOLDER|0OPEN FOLDER|0CARD INDEX DIVIDERS",
   "1FILE BOX|0FILE CABINET|0EMPTY NOTE|2PAGE|2PAD|0NOTE|1PAGE|1PAD|0EMPTY DOCUMENT|1PAGE|1PAGES",
   "0DOCUMENT|0PAGE|0PAGES|0WASTEBASKET|0SPIRAL NOTE PAD|1CALENDAR PAD|0DESKTOP WINDOW|0MINIMIZE",
   "0MAXIMIZE|0OVERLAP|0CLOCKWISE p b m SEMICIRCLE ARROWS|0CANCELLATION X|0INCREASE FONT SIZE u",
   "0DECREASE FONT SIZE u|0COMPRESSION|0OLD KEY|0ROLLED-UP NEWSPAPER|0PAGE z CIRCLED TEXT",
   "0STOCK CHART|0DAGGER KNIFE|0LIPS|0SPEAKING HEAD IN SILHOUETTE|0v RAYS a|2d|2m|2p",
   "0m SPEECH BUBBLE|0p SPEECH BUBBLE|0TWO SPEECH BUBBLES|0v SPEECH BUBBLES|0m THOUGHT BUBBLE",
   "0p THOUGHT BUBBLE|0m ANGER BUBBLE|0p ANGER BUBBLE|0MOOD BUBBLE|0LIGHTNING MOOD BUBBLE|2",
   "0BALLOT BOX z BALLOT|1SCRIPT X|1BOX z SCRIPT X|1BOLD SCRIPT X|1BOX z BOLD SCRIPT X",
   "0LIGHT CHECK MARK|0BALLOT BOX z BOLD CHECK|0WORLD MAP|0MOUNT FUJI|0TOKYO TOWER",
   "0STATUE OF LIBERTY|0SILHOUETTE OF JAPAN|0MOYAI|0GRINNING FACE|2z SMILING EYES",
   "0FACE z TEARS OF JOY|0SMILING FACE z OPEN MOUTH|5b SMILING EYES|6COLD SWEAT",
   "6TIGHTLY-CLOSED EYES|3HALO|3HORNS|0WINKING FACE|0SMILING FACE z SMILING EYES",
   "0FACE SAVOURING DELICIOUS FOOD|0RELIEVED FACE|0SMILING FACE z HEART-SHAPED EYES|3SUNGLASSES",
   "0SMIRKING FACE|0NEUTRAL FACE|0EXPRESSIONLESS FACE|0UNAMUSED FACE|0FACE z COLD SWEAT",
   "0PENSIVE FACE|0CONFUSED FACE|0CONFOUNDED FACE|0KISSING FACE|0FACE THROWING A KISS",
   "0KISSING FACE z SMILING EYES|3CLOSED EYES|0FACE z STUCK-OUT TONGUE|4b WINKING EYE",
   "5TIGHTLY-CLOSED EYES|0DISAPPOINTED FACE|0WORRIED FACE|0ANGRY FACE|0POUTING FACE|0CRYING FACE",
   "0PERSEVERING FACE|0FACE z LOOK OF TRIUMPH|0DISAPPOINTED BUT RELIEVED FACE",
   "0FROWNING FACE z OPEN MOUTH|0ANGUISHED FACE|0FEARFUL FACE|0WEARY FACE|0SLEEPY FACE|0TIRED FACE",
   "0GRIMACING FACE|0LOUDLY CRYING FACE|0FACE z OPEN MOUTH|0HUSHED FACE",
   "0FACE z OPEN MOUTH b COLD SWEAT|1SCREAMING IN FEAR|0ASTONISHED FACE|0FLUSHED FACE",
   "0SLEEPING FACE|0DIZZY FACE|0FACE WITHOUT MOUTH|1z MEDICAL MASK",
   "0GRINNING CAT FACE z SMILING EYES|0CAT FACE z TEARS OF JOY|0SMILING CAT FACE z OPEN MOUTH",
   "4HEART-SHAPED EYES|0CAT FACE z WRY SMILE|0KISSING CAT FACE z CLOSED EYES|0POUTING CAT FACE",
   "0CRYING CAT FACE|0WEARY CAT FACE|0SLIGHTLY FROWNING FACE|1SMILING FACE|0UPSIDE-DOWN FACE",
   "0FACE z ROLLING EYES|2NO GOOD GESTURE|2OK GESTURE|0PERSON BOWING DEEPLY|0SEE-NO-EVIL MONKEY",
   "0HEAR-NO-EVIL MONKEY|0SPEAK-NO-EVIL MONKEY|0HAPPY PERSON RAISING ONE HAND",
   "0PERSON RAISING BOTH HANDS IN CELEBRATION|1FROWNING|1z POUTING FACE|2FOLDED HANDS",
   "1F680=0ROCKET|0HELICOPTER|0STEAM LOCOMOTIVE|0RAILWAY CAR|0HIGH-SPEED TRAIN|2z BULLET NOSE",
   "0TRAIN|0METRO|0LIGHT RAIL|0STATION|0TRAM|1CAR|0BUS|0ONCOMING BUS|0TROLLEYBUS|0BUS STOP",
   "0MINIBUS|0AMBULANCE|0FIRE ENGINE|0POLICE CAR|0ONCOMING POLICE CAR|0TAXI|0ONCOMING TAXI",
   "0AUTOMOBILE|0ONCOMING AUTOMOBILE|0RECREATIONAL VEHICLE|0DELIVERY TRUCK|0ARTICULATED LORRY",
   "0TRACTOR|0MONORAIL|0MOUNTAIN RAILWAY|0SUSPENSION RAILWAY|0MOUNTAIN CABLEWAY|0AERIAL TRAMWAY",
   "0SHIP|0ROWBOAT|0SPEEDBOAT|0j TRAFFIC LIGHT|0x TRAFFIC LIGHT|0CONSTRUCTION r",
   "0POLICE CARS REVOLVING LIGHT|0TRIANGULAR FLAG ON POST|0DOOR|0NO ENTRY r|0SMOKING u",
   "0NO SMOKING u|0PUT LITTER IN ITS PLACE u|0DO NOT LITTER u|0POTABLE WATER u",
   "0NON-POTABLE WATER u|0BICYCLE|0NO BICYCLES|0BICYCLIST|0MOUNTAIN BICYCLIST|0PEDESTRIAN",
   "0NO PEDESTRIANS|0CHILDREN CROSSING|0MENS u|0WOMENS u|0RESTROOM|0BABY u|0TOILET|0WATER CLOSET",
   "0SHOWER|0BATH|0BATHTUB|0PASSPORT CONTROL|0CUSTOMS|0BAGGAGE CLAIM|0m LUGGAGE",
   "0TRIANGLE z ROUNDED CORNERS|0PROHIBITED r|0CIRCLED INFORMATION SOURCE|0BOYS u|0GIRLS u",
   "0COUCH b LAMP|0SLEEPING ACCOMMODATION|0SHOPPING BAGS|0BELLHOP BELL|0BED|0PLACE OF WORSHIP",
   "0OCTAGONAL r|0SHOPPING TROLLEY|0STUPA|0PAGODA|0HINDU TEMPLE|0HUT|0ELEVATOR",
   "1F6DD=0PLAYGROUND SLIDE|0WHEEL|0RING BUOY|0HAMMER b WRENCH|0SHIELD|0OIL DRUM|0MOTORWAY",
   "0RAILWAY TRACK|0MOTOR BOAT|0UP-POINTING MILITARY AIRPLANE|1AIRPLANE|1s AIRPLANE|0s AIRPLANE",
   "0NORTHEAST-POINTING AIRPLANE|0AIRPLANE DEPARTURE|1ARRIVING|1F6F0=0SATELLITE",
   "0ONCOMING FIRE ENGINE|0DIESEL LOCOMOTIVE|0PASSENGER SHIP|0SCOOTER|0MOTOR SCOOTER|0CANOE|0SLED",
   "0FLYING SAUCER|0SKATEBOARD|0AUTO RICKSHAW|0PICKUP TRUCK|0ROLLER SKATE",
   "1F900=0CIRCLED CROSS FORMEE z FOUR DOTS|4TWO DOTS|3|0m HALF CIRCLE z FOUR DOTS|4v DOTS",
   "4TWO DOTS|4DOT|3|0DOWNWARD FACING HOOK|2NOTCHED HOOK|2HOOK z DOT|2NOTCHED HOOK z DOT",
   "0PINCHED FINGERS|0y HEART|0BROWN HEART|0PINCHING HAND|0ZIPPER-MOUTH FACE|0MONEY-MOUTH FACE",
   "0FACE z THERMOMETER|0NERD FACE|0THINKING FACE|0FACE z HEAD-BANDAGE|0ROBOT FACE|0HUGGING FACE",
   "0r OF THE HORNS|0CALL ME HAND|0RAISED BACK OF HAND|0LEFT-FACING FIST|0RIGHT-FACING FIST",
   "0HANDSHAKE|0HAND z INDEX b MIDDLE FINGERS CROSSED|0I LOVE YOU HAND r|0FACE z COWBOY HAT",
   "0CLOWN FACE|0NAUSEATED FACE|0ROLLING ON THE FLOOR LAUGHING|0DROOLING FACE|0LYING FACE",
   "0FACE PALM|0SNEEZING FACE|0FACE z ONE EYEBROW RAISED|0GRINNING FACE z STAR EYES",
   "3ONE LARGE b ONE s EYE|0FACE z FINGER COVERING CLOSED LIPS",
   "0SERIOUS FACE z SYMBOLS COVERING MOUTH|0SMILING FACE z SMILING EYES b HAND COVERING MOUTH",
   "0FACE z OPEN MOUTH VOMITING|0SHOCKED FACE z EXPLODING HEAD|0PREGNANT WOMAN|0BREAST-FEEDING",
   "0PALMS UP TOGETHER|0SELFIE|0PRINCE|0MAN IN TUXEDO|0MOTHER CHRISTMAS|0SHRUG",
   "0PERSON DOING CARTWHEEL|0JUGGLING|0FENCER|0MODERN PENTATHLON|0WRESTLERS|0WATER POLO|0HANDBALL",
   "0DIVING MASK|0WILTED FLOWER|0DRUM z DRUMSTICKS|0CLINKING GLASSES|0TUMBLER GLASS|0SPOON",
   "0GOAL NET|0RIFLE|0FIRST PLACE MEDAL|0SECOND PLACE MEDAL|0THIRD PLACE MEDAL|0BOXING GLOVE",
   "0MARTIAL ARTS UNIFORM|0CURLING STONE|0LACROSSE STICK b BALL|0SOFTBALL|0FLYING DISC|0CROISSANT",
   "0AVOCADO|0CUCUMBER|0BACON|0POTATO|0CARROT|0BAGUETTE BREAD|0GREEN SALAD|0SHALLOW PAN OF FOOD",
   "0STUFFED FLATBREAD|0EGG|0GLASS OF MILK|0PEANUTS|0KIWIFRUIT|0PANCAKES|0DUMPLING|0FORTUNE COOKIE",
   "0TAKEOUT BOX|0CHOPSTICKS|0BOWL z SPOON|0CUP z STRAW|0COCONUT|0BROCCOLI|0PIE|0PRETZEL",
   "0CUT OF MEAT|0SANDWICH|0CANNED FOOD|0LEAFY GREEN|0MANGO|0MOON CAKE|0BAGEL",
   "0SMILING FACE z SMILING EYES b v HEARTS|0YAWNING FACE|0SMILING FACE z TEAR",
   "0FACE z PARTY HORN b PARTY HAT|2UNEVEN EYES b WAVY MOUTH|0OVERHEATED FACE|0FREEZING FACE",
   "0NINJA|0DISGUISED FACE|0FACE HOLDING BACK TEARS|1z PLEADING EYES|0SARI|0LAB COAT|0GOGGLES",
   "0HIKING BOOT|0FLAT SHOE|0CRAB|0LION FACE|0SCORPION|0TURKEY|0UNICORN FACE|0EAGLE|0DUCK|0BAT",
   "0SHARK|0OWL|0FOX FACE|0BUTTERFLY|0DEER|0GORILLA|0LIZARD|0RHINOCEROS|0SHRIMP|0SQUID",
   "0GIRAFFE FACE|0ZEBRA FACE|0HEDGEHOG|0SAUROPOD|0T-REX|0CRICKET|0KANGAROO|0LLAMA|0PEACOCK",
   "0HIPPOPOTAMUS|0PARROT|0RACCOON|0LOBSTER|0MOSQUITO|0MICROBE|0BADGER|0SWAN|0MAMMOTH|0DODO|0SLOTH",
   "0OTTER|0ORANGUTAN|0SKUNK|0FLAMINGO|0OYSTER|0BEAVER|0BISON|0SEAL|0GUIDE DOG|0PROBING CANE",
   "0EMOJI COMPONENT RED HAIR|2CURLY HAIR|2BALD|2y HAIR|0BONE|0LEG|0FOOT|0TOOTH|0SUPERHERO",
   "0SUPERVILLAIN|0SAFETY VEST|0EAR z HEARING AID|0MOTORIZED WHEELCHAIR|0MANUAL WHEELCHAIR",
   "0MECHANICAL ARM|1LEG|0CHEESE WEDGE|0CUPCAKE|0SALT SHAKER|0BEVERAGE BOX|0GARLIC|0ONION|0FALAFEL",
   "0WAFFLE|0BUTTER|0MATE DRINK|0ICE CUBE|0BUBBLE TEA|0TROLL|0STANDING PERSON|0KNEELING PERSON",
   "0DEAF PERSON|0FACE z MONOCLE|0ADULT|0CHILD|0OLDER ADULT|0BEARDED PERSON|0PERSON z HEADSCARF",
   "1IN STEAMY ROOM|1CLIMBING|1IN LOTUS POSITION|0MAGE|0FAIRY|0VAMPIRE|0MERPERSON|0ELF|0GENIE",
   "0ZOMBIE|0BRAIN|0ORANGE HEART|0BILLED CAP|0SCARF|0GLOVES|0COAT|0SOCKS|0RED GIFT ENVELOPE",
   "0FIRECRACKER|0JIGSAW PUZZLE PIECE|0TEST TUBE|0PETRI DISH|0DNA g HELIX|0COMPASS|0ABACUS",
   "0FIRE EXTINGUISHER|0TOOLBOX|0BRICK|0MAGNET|0LUGGAGE|0LOTION BOTTLE|0SPOOL OF THREAD",
   "0BALL OF YARN|0SAFETY PIN|0TEDDY BEAR|0BROOM|0BASKET|0ROLL OF PAPER|0BAR OF SOAP|0SPONGE",
   "0RECEIPT|0NAZAR AMULET"]

end CharacterName
end Text
end Oneliner
