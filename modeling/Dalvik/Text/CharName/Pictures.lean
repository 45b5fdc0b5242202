/-!
Names of pictographs, and of the characters of the last planes. The entries are in the form that
`addNames` reads.
-/

namespace Dalvik.Text

def pictureNames : List String := [
  "1f000:0MAHJONG TILE es WIND;2sb WIND;2WEST WIND;2no WIND;2RED DRAGON;2GREEN DRAGON;2u DRAGON",
  "2ONE OF CHARACTERS;2TWO*1 1 3;2j*1 2 3;2fo*1 3 3;2fi*1 4 3;2SIX*1 5 3;2se*1 6 3;2ei*1 7 3",
  "2ni*1 8 3;2ONE OF BAMBOOS;2TWO*1 1 3;2j*1 2 3;2fo*1 3 3;2fi*1 4 3;2SIX*1 5 3;2se*1 6 3",
  "2ei*1 7 3;2ni*1 8 3;2ONE OF CIRCLES;2TWO*1 1 3;2j*1 2 3;2fo*1 3 3;2fi*1 4 3;2SIX*1 5 3",
  "2se*1 6 3;2ei*1 7 3;2ni*1 8 3;2PLUM;2ORCHID;2BAMBOO;2CHRYSANTHEMUM;2SPRING;2SUMMER;2AUTUMN",
  "2WINTER;2JOKER;2BACK;1f030:0DOMINO TILE z BACK;2HORIZONTAL-00-00;+6;2HORIZONTAL-01-00;+6",
  "2HORIZONTAL-02-00;+6;2HORIZONTAL-03-00;+6;2HORIZONTAL-04-00;+6;2HORIZONTAL-05-00;+6",
  "2HORIZONTAL-06-00;+6;2v BACK;2VERTICAL-00-00;+6;2VERTICAL-01-00;+6;2VERTICAL-02-00;+6",
  "2VERTICAL-03-00;+6;2VERTICAL-04-00;+6;2VERTICAL-05-00;+6;2VERTICAL-06-00;+6",
  "1f0a0:0PLAYING CARD BACK;2ACE OF SPADES;2TWO*1 1 3;2j*1 2 3;2fo*1 3 3;2fi*1 4 3;2SIX*1 5 3",
  "2se*1 6 3;2ei*1 7 3;2ni*1 8 3;2TEN*1 9 3;2JACK*1 a 3;2KNIGHT*1 b 3;2QUEEN*1 c 3;2KING*1 d 3",
  "1f0b1:2ACE OF HEARTS;2TWO*1 1 3;2j*1 2 3;2fo*1 3 3;2fi*1 4 3;2SIX*1 5 3;2se*1 6 3;2ei*1 7 3",
  "2ni*1 8 3;2TEN*1 9 3;2JACK*1 a 3;2KNIGHT*1 b 3;2QUEEN*1 c 3;2KING*1 d 3;2RED JOKER",
  "1f0c1:2ACE OF DIAMONDS;2TWO*1 1 3;2j*1 2 3;2fo*1 3 3;2fi*1 4 3;2SIX*1 5 3;2se*1 6 3;2ei*1 7 3",
  "2ni*1 8 3;2TEN*1 9 3;2JACK*1 a 3;2KNIGHT*1 b 3;2QUEEN*1 c 3;2KING*1 d 3;2q JOKER",
  "1f0d1:2ACE OF CLUBS;2TWO*1 1 3;2j*1 2 3;2fo*1 3 3;2fi*1 4 3;2SIX*1 5 3;2se*1 6 3;2ei*1 7 3",
  "2ni*1 8 3;2TEN*1 9 3;2JACK*1 a 3;2KNIGHT*1 b 3;2QUEEN*1 c 3;2KING*1 d 3;2u JOKER;2FOOL;2TRUMP-1",
  "+14;1f100:0dg ze FULL so;2cm;1ONE cm;1TWO cm;1j cm;1fo cm;1fi cm;1SIX cm;1se cm;1ei cm;1ni cm",
  "0DINGBAT cc sa dg ze;1NEGATIVE*1 1 1;0cc ze w SLASH;1at a;1DOLLAR s w OVERLAID BACKSLASH",
  "0PARENTHESIZED lb c l A;4B;4C;4D;4E;4F;4G;4H;4I;4J;4K;4L;4M;4N;4O;4P;4Q;4R;4S;4T;4U;4V;4W;4X;4Y",
  "4Z;0TORTOISE SHELL BRACKETED*1 8 1;0cc ITALIC*1 19 1;5R;1CD;1WZ;0COPYLEFT y;0su*1a 20 1;1HV;1MV",
  "1SD;1SS;1PPV;1WC;0NEGATIVE cc*1a 40 1;0RAISED MC s;1MD s;1MR s;0cc CC;1C*1 5f 3;1HUMAN FIGURE",
  "0NEGATIVE*1a 40 0;0CROSSED*1 b 0;0NEGATIVE su IC;2PA;2SA;2AB;2WC;0sq DJ;0su CL;1COOL;1FREE;1ID",
  "1NEW;1NG;1OK;1SOS;1UP w ex x;1VS;1j D;1SECOND SCREEN;1TWO K;1fo K;1ei K;1fi POINT ONE;1se*1 1 2",
  "1TWENTY-TWO POINT TWO;1SIXTY P;1ONE hu tw P;1lb m l D;1HC;1HDR;1HI-RES;1LOSSLESS;1SHV;1UHD;1VOD",
  "0MASK WORK y;1f1e6:0REGIONAL INDICATOR y*1a 9e 3;0sq HIRAGANA HOKA;0su KATAKANA KOKO;2SA",
  "1f210:1CJK UNIFIED IDEOGRAPH-624B;3IDEOGRAPH-5B57;3IDEOGRAPH-53CC;1KATAKANA DE",
  "1CJK UNIFIED IDEOGRAPH-4E8C;3IDEOGRAPH-591A;3IDEOGRAPH-89E3;3IDEOGRAPH-5929;3IDEOGRAPH-4EA4",
  "3IDEOGRAPH-6620;3IDEOGRAPH-7121;3IDEOGRAPH-6599;3IDEOGRAPH-524D;3IDEOGRAPH-5F8C;3IDEOGRAPH-518D",
  "3IDEOGRAPH-65B0;3IDEOGRAPH-521D;3IDEOGRAPH-7D42;3IDEOGRAPH-751F;3IDEOGRAPH-8CA9;3IDEOGRAPH-58F0",
  "3IDEOGRAPH-5439;3IDEOGRAPH-6F14;3IDEOGRAPH-6295;3IDEOGRAPH-6355;3IDEOGRAPH-4E00;3IDEOGRAPH-4E09",
  "3IDEOGRAPH-904A;3IDEOGRAPH-5DE6;3IDEOGRAPH-4E2D;3IDEOGRAPH-53F3;3IDEOGRAPH-6307;3IDEOGRAPH-8D70",
  "3IDEOGRAPH-6253;3IDEOGRAPH-7981;3IDEOGRAPH-7A7A;3IDEOGRAPH-5408;3IDEOGRAPH-6E80;3IDEOGRAPH-6709",
  "3IDEOGRAPH-6708;3IDEOGRAPH-7533;3IDEOGRAPH-5272;3IDEOGRAPH-55B6;3IDEOGRAPH-914D",
  "1f240:0TORTOISE SHELL BRACKETED CJK UNIFIED IDEOGRAPH-672C;3*1 13 1;3*1 2a 1;5IDEOGRAPH-5B89",
  "5IDEOGRAPH-70B9;3*1 10 1;5IDEOGRAPH-76D7;5IDEOGRAPH-52DD;5IDEOGRAPH-6557",
  "1f250:0cc IDEOGRAPH ADVANTAGE;2ACCEPT;1f260:0ROUNDED y FOR FU;3LU;3SHOU;3XI;3SHUANGXI;3CAI",
  "1f300:0CYCLONE;0FOGGY;0cl UMBRELLA;0NIGHT w STARS;0SUNRISE ov MOUNTAINS;0SUNRISE",
  "0CITYSCAPE AT DUSK;0SUNSET ov BUILDINGS;0RAINBOW;0BRIDGE AT NIGHT;0WATER WAVE;0VOLCANO",
  "0MILKY WAY;0EARTH GLOBE EUROPE-AFRICA;2AMERICAS;2ASIA-AUSTRALIA;0GLOBE w MERIDIANS;0NEW MOON y",
  "0WAXING CRESCENT MOON y;0FIRST qa MOON y;0WAXING GIBBOUS MOON y;0FULL MOON y;0WANING*1 2 1",
  "0LAST*1 4 1;0WANING*1 6 1;0CRESCENT MOON;0NEW MOON w fa;0FIRST qa*1 1 1;0LAST*1 1 1;0FULL*1 3 1",
  "0SUN w fa;0GLOWING STAR;0SHOOTING STAR;0THERMOMETER;0q DROPLET;0u SUN;2w m CLOUD;2BEHIND CLOUD",
  "4w RAIN;0*1 1 3;2SNOW;2LIGHTNING;2TORNADO;0FOG;0WIND BLOWING fa;0HOT DOG;0TACO;0BURRITO",
  "0CHESTNUT;0SEEDLING;0EVERGREEN TREE;0DECIDUOUS TREE;0PALM TREE;0CACTUS;0HOT PEPPER;0TULIP",
  "0CHERRY BLOSSOM;0ROSE;0HIBISCUS;0SUNFLOWER;0BLOSSOM;0EAR OF MAIZE;2RICE;0HERB;0fo LEAF CLOVER",
  "0MAPLE LEAF;0FALLEN LEAF;0LEAF FLUTTERING IN WIND;0MUSHROOM;0TOMATO;0AUBERGINE;0GRAPES;0MELON",
  "0WATERMELON;0TANGERINE;0LEMON;0BANANA;0PINEAPPLE;0RED APPLE;0GREEN APPLE;0PEAR;0PEACH;0CHERRIES",
  "0STRAWBERRY;0HAMBURGER;0SLICE OF PIZZA;0MEAT ON BONE;0POULTRY LEG;0RICE CRACKER;1BALL",
  "0COOKED RICE;0CURRY k RICE;0STEAMING BOWL;0SPAGHETTI;0BREAD;0FRENCH FRIES;0ROASTED SWEET POTATO",
  "0DANGO;0ODEN;0SUSHI;0FRIED SHRIMP;0FISH CAKE w SWIRL DESIGN;0SOFT ICE CREAM;0SHAVED ICE;0*1 2 1",
  "0DOUGHNUT;0COOKIE;0CHOCOLATE BAR;0CANDY;0LOLLIPOP;0CUSTARD;0HONEY POT;0SHORTCAKE;0BENTO BOX",
  "0POT OF FOOD;0COOKING;0FORK k KNIFE;0TEACUP WITHOUT HANDLE;0SAKE BOTTLE k CUP;0WINE GLASS",
  "0COCKTAIL GLASS;0TROPICAL DRINK;0BEER MUG;0CLINKING BEER MUGS;0BABY BOTTLE",
  "0FORK k KNIFE w PLATE;0BOTTLE w POPPING CORK;0POPCORN;0RIBBON;0WRAPPED PRESENT;0BIRTHDAY CAKE",
  "0JACK-O-LANTERN;0CHRISTMAS TREE;0FATHER CHRISTMAS;0FIREWORKS;0FIREWORK SPARKLER;0BALLOON",
  "0PARTY POPPER;0CONFETTI BALL;0TANABATA TREE;0CROSSED FLAGS;0PINE DECORATION;0JAPANESE DOLLS",
  "0CARP STREAMER;0WIND CHIME;0MOON VIEWING CEREMONY;0SCHOOL SATCHEL;0GRADUATION CAP",
  "0HEART w TIP ON THE e;0BOUQUET OF FLOWERS;0MILITARY MEDAL;0REMINDER RIBBON",
  "0MUSICAL KEYBOARD w JACKS;0STUDIO MICROPHONE;0LEVEL SLIDER;0CONTROL KNOBS",
  "0BEAMED ASCENDING MUSICAL NOTES;1DESCENDING*1 1 2;0FILM FRAMES;0ADMISSION TICKETS",
  "0CAROUSEL HORSE;0FERRIS WHEEL;0ROLLER COASTER;0FISHING POLE k FISH;0*1 b 1;0MOVIE CAMERA",
  "0CINEMA;0HEADPHONE;0ARTIST PALETTE;0TOP HAT;0CIRCUS TENT;0TICKET;0CLAPPER BOARD",
  "0PERFORMING ARTS;0VIDEO GAME;0DIRECT HIT;0SLOT MACHINE;0BILLIARDS;0GAME DIE;0BOWLING",
  "0FLOWER PLAYING CARDS;0MUSICAL NOTE;0MULTIPLE*1 1a 2;0SAXOPHONE;0GUITAR;0MUSICAL KEYBOARD",
  "0TRUMPET;0VIOLIN;0MUSICAL SCORE;0RUNNING SHIRT w SASH;0TENNIS RACQUET k BALL;0SKI k SKI BOOT",
  "0BASKETBALL k HOOP;0CHEQUERED FLAG;0SNOWBOARDER;0RUNNER;0SURFER;0SPORTS MEDAL;0TROPHY",
  "0HORSE RACING;0AMERICAN FOOTBALL;0RUGBY*1 1 1;0SWIMMER;0WEIGHT LIFTER;0GOLFER",
  "0RACING MOTORCYCLE;1CAR;0CRICKET BAT k BALL;0VOLLEYBALL;0FIELD HOCKEY STICK k BALL",
  "0ICE HOCKEY STICK k PUCK;0TABLE TENNIS PADDLE k BALL;0SNOW CAPPED MOUNTAIN;0CAMPING",
  "0BEACH w*1 d4 1;0BUILDING CONSTRUCTION;0HOUSE*1 d1 2;0CITYSCAPE;0DERELICT HOUSE BUILDING",
  "0CLASSICAL*1 1 2;0DESERT;1ISLAND;0NATIONAL PARK;0STADIUM;0*1 6 1;1w GARDEN;0OFFICE*1 8 2",
  "0JAPANESE POST OFFICE;0EUROPEAN*1 1 1;0HOSPITAL;0BANK;0AUTOMATED TELLER MACHINE;0HOTEL",
  "0LOVE HOTEL;0CONVENIENCE STORE;0SCHOOL;0DEPARTMENT STORE;0FACTORY;0IZAKAYA LANTERN",
  "0JAPANESE CASTLE;0EUROPEAN CASTLE;0u PENNANT;0q*1 1 1;0WAVING u FLAG;1q FLAG;0ROSETTE;0q*1 1 0",
  "0LABEL;0BADMINTON RACQUET k SHUTTLECOCK;0BOW k a;0AMPHORA;0EMOJI mf FITZPATRICK TYPE-1-2",
  "3TYPE-3;+3;0RAT;0MOUSE;0OX;0WATER BUFFALO;0COW;0TIGER;0LEOPARD;0RABBIT;0CAT;0DRAGON;0CROCODILE",
  "0WHALE;0SNAIL;0SNAKE;0HORSE;0RAM;0GOAT;0SHEEP;0MONKEY;0ROOSTER;0CHICKEN;0DOG;0PIG;0BOAR",
  "0ELEPHANT;0OCTOPUS;0SPIRAL SHELL;0BUG;0ANT;0HONEYBEE;0LADY BEETLE;0FISH;0TROPICAL FISH",
  "0BLOWFISH;0TURTLE;0HATCHING CHICK;0BABY CHICK;0FRONT-FACING*1 1 0;0BIRD;0PENGUIN;0KOALA;0POODLE",
  "0DROMEDARY CAMEL;0BACTRIAN CAMEL;0DOLPHIN;0MOUSE fa;0COW fa;0TIGER fa;0RABBIT fa;0CAT fa",
  "0DRAGON fa;0SPOUTING WHALE;0HORSE fa;0MONKEY fa;0DOG fa;0PIG fa;0FROG fa;0HAMSTER fa;0WOLF fa",
  "0BEAR fa;0PANDA fa;0PIG NOSE;0PAW PRINTS;0CHIPMUNK;0EYES;0EYE;0EAR;0NOSE;0MOUTH;0TONGUE",
  "0u UP po BACKHAND id;1dw*1 1 2;1e*1 2 2;1r*1 3 2;0FISTED HAND s;0WAVING HAND s;0OK HAND s",
  "0THUMBS UP s;1dw s;0CLAPPING HANDS s;0oe*1 1 1;0CROWN;0WOMANS HAT;0EYEGLASSES;0NECKTIE;0T-SHIRT",
  "0JEANS;0DRESS;0KIMONO;0BIKINI;0WOMANS CLOTHES;0PURSE;0HANDBAG;0POUCH;0MANS SHOE;0ATHLETIC SHOE",
  "0HIGH-HEELED SHOE;0WOMANS SANDAL;1BOOTS;0FOOTPRINTS;0BUST IN SILHOUETTE;0BUSTS*1 1 1;0BOY;0GIRL",
  "0MAN;0WOMAN;0FAMILY;0MAN k WOMAN HOLDING HANDS;0TWO MEN*1 1 3;1WOMEN*1 2 3;0POLICE OFFICER",
  "0WOMAN w BUNNY EARS;0BRIDE w VEIL;0PERSON w BLOND HAIR;0MAN w GUA PI MAO;2TURBAN;0OLDER*2 c 0",
  "0BABY;0CONSTRUCTION WORKER;0PRINCESS;0JAPANESE OGRE;1GOBLIN;0GHOST;0BABY ANGEL",
  "0EXTRATERRESTRIAL ALIEN;0ALIEN MONSTER;0IMP;0SKULL;0INFORMATION DESK PERSON;0GUARDSMAN;0DANCER",
  "0LIPSTICK;0NAIL POLISH;0fa MASSAGE;0HAIRCUT;0BARBER POLE;0SYRINGE;0PILL;0KISS x;0LOVE l;0rn",
  "0GEM STONE;0KISS;0BOUQUET;0COUPLE w HEART;0WEDDING;0BEATING HEART;0BROKEN HEART;0TWO HEARTS",
  "0SPARKLING HEART;0GROWING HEART;0HEART w a;0BLUE HEART;0GREEN HEART;0YELLOW HEART;0PURPLE HEART",
  "0HEART w RIBBON;0REVOLVING HEARTS;0HEART*1 112 1;0dm SHAPE w A DOT INSIDE;0ELECTRIC li BULB",
  "0ANGER y;0BOMB;0SLEEPING y;0COLLISION y;0SPLASHING SWEAT y;0DROPLET;0DASH y;0PILE OF POO",
  "0FLEXED BICEPS;0DIZZY y;0SPEECH BALLOON;0THOUGHT*1 1 1;0u FLOWER;0hu POINTS y;0MONEY BAG",
  "0CURRENCY EXCHANGE;0he DOLLAR s;0CREDIT CARD;0BANKNOTE w YEN s;2*1 3 1;2EURO s;2POUND s",
  "0MONEY w WINGS;0CHART w up TREND k YEN s;0SEAT;0PERSONAL COMPUTER;0BRIEFCASE;0MINIDISC",
  "0FLOPPY DISK;0OPTICAL DISC;0DVD;0FILE FOLDER;0oe*1 1 0;0PAGE w CURL;1FACING UP;0CALENDAR",
  "0TEAR-OFF*1 1 0;0CARD id;0CHART w up TREND;2do TREND;0BAR CHART;0CLIPBOARD;0PUSHPIN",
  "0ROUND*1 1 0;0PAPERCLIP;0sg RULER;0ta RULER;0BOOKMARK TABS;0LEDGER;0NOTEBOOK",
  "1w DECORATIVE COVER;0cl BOOK;0oe BOOK;0GREEN BOOK;0BLUE BOOK;0ORANGE BOOK;0BOOKS;0NAME BADGE",
  "0SCROLL;0MEMO;0TELEPHONE RECEIVER;0PAGER;0FAX MACHINE;0SATELLITE ANTENNA",
  "0PUBLIC ADDRESS LOUDSPEAKER;0CHEERING MEGAPHONE;0OUTBOX TRAY;0INBOX TRAY;0PACKAGE;0E-MAIL y",
  "0INCOMING ENVELOPE;0ENVELOPE w do a b;0cl MAILBOX w LOWERED FLAG;3RAISED FLAG;0oe*1 1 1;1*1 3 1",
  "0POSTBOX;0POSTAL HORN;0NEWSPAPER;0MOBILE PHONE;2w g a AT e;0VIBRATION MODE;0MOBILE PHONE OFF",
  "0NO MOBILE PHONES;0ANTENNA w BARS;0CAMERA;1w FLASH;0VIDEO CAMERA;0TELEVISION;0RADIO",
  "0VIDEOCASSETTE;0FILM PROJECTOR;0PORTABLE STEREO;0PRAYER BEADS;0TWISTED g ARROWS",
  "0CLOCKWISE g k t oe ci ARROWS;7w cc ONE OVERLAY;1do k up*1 2 4;0at*1 1 1;0LOW BRIGHTNESS y",
  "0hg*1 1 1;0SPEAKER w CANCELLATION st;0SPEAKER;1w ONE SOUND WAVE;2j SOUND WAVES;0BATTERY",
  "0ELECTRIC PLUG;0lf MAGNIFYING GLASS;0ri*1 1 1;0LOCK w INK PEN;0cl LOCK w KEY;0KEY;0LOCK",
  "0oe LOCK;0BELL;1*1 e 1;0BOOKMARK;0LINK y;0RADIO BUTTON;0BACK w t a b;0END*1 1 1",
  "0ON w ex x w e r a b;0SOON w g a b;0TOP w up a b;0NO ONE UNDER EIGHTEEN y;0KEYCAP TEN",
  "0INPUT y FOR lb c LETTERS;&;3NUMBERS;3SYMBOLS;3lb*1 4 5;0FIRE;0ELECTRIC TORCH;0WRENCH;0HAMMER",
  "0NUT k BOLT;0HOCHO;0PISTOL;0MICROSCOPE;0TELESCOPE;0CRYSTAL BALL;0SIX pi STAR w mi DOT",
  "0JAPANESE y FOR BEGINNER;0TRIDENT EMBLEM;0q sq BUTTON;0u*1 1 1;0la RED ci;1BLUE ci;1ORANGE dm",
  "1BLUE dm;0m*2 2 1;0UP-POINTING RED tr;0dn RED tr;0UP-POINTING m RED tr;0dn*1 1 1",
  "0lo r SHADOWED u ci;0ue*1 1 1;0cc cb POMMEE;0cb POMMEE w HALF-CIRCLE p;1POMMEE",
  "0NOTCHED e SEMICIRCLE w j dt;1r*1 1 2;0y FOR MARKS CHAPTER;0u lb cb;0he lb cb;0CELTIC cb;0OM y",
  "0DOVE OF PEACE;0KAABA;0MOSQUE;0SYNAGOGUE;0MENORAH w ni BRANCHES;0BOWL OF HYGIEIA",
  "0CLOCK fa ONE OCLOCK;2TWO OCLOCK;2j OCLOCK;2fo OCLOCK;2fi OCLOCK;2SIX OCLOCK;2se OCLOCK",
  "2ei OCLOCK;2ni OCLOCK;2TEN OCLOCK;2ELEVEN OCLOCK;2TWELVE OCLOCK;2ONE-THIRTY;2TWO-THIRTY",
  "2THREE-THIRTY;2FOUR-THIRTY;2FIVE-THIRTY;2SIX-THIRTY;2SEVEN-THIRTY;2EIGHT-THIRTY;2NINE-THIRTY",
  "2TEN-THIRTY;2ELEVEN-THIRTY;2TWELVE-THIRTY;0r*3 60 0;0BULLHORN;1w*1 62 3;0RINGING BELL;0BOOK",
  "0CANDLE;0MANTELPIECE CLOCK;0q SKULL k CROSSBONES;0NO PIRACY;0HOLE",
  "0MAN IN BUSINESS SUIT LEVITATING;0SLEUTH OR SPY;0DARK SUNGLASSES;0SPIDER;1WEB;0JOYSTICK",
  "0MAN DANCING;0e HAND*1 9d 0;0TELEPHONE RECEIVER w PAGE;0r*1 2 1;0u TOUCHTONE TELEPHONE;0q*1 1 1",
  "0TELEPHONE ON TOP OF MODEM;0CLAMSHELL*1 90 0;0BACK OF*1 9a 1;0STAMPED*1 9b 1;0ENVELOPE*1 25b 1",
  "0FLYING*1 9d 1;0PEN ov*1 3 0;0LINKED PAPERCLIPS;0q PUSHPIN;0lo e PENCIL;2BALLPOINT PEN",
  "2FOUNTAIN PEN;2PAINTBRUSH;2CRAYON;0e WRITING HAND;0tu*1 143 0;0RAISED HAND w FINGERS SPLAYED",
  "0re*1 1 0;1*2 145 0;1VICTORY HAND;1HAND w mi FINGER EXTENDED",
  "0RAISED HAND w PART BETWEEN mi k rn FINGERS;0u dw po e HAND id;0SIDEWAYS u e po id;2r po id",
  "1q*2 2 2;0q*2 154 1;0SIDEWAYS u UP po id;2dw po id;1q*2 2 2;0q*2 15c 1;1HEART;0DESKTOP*1 ea 1",
  "0KEYBOARD k MOUSE;0j NETWORKED COMPUTERS;0PRINTER;0POCKET CALCULATOR;0q HARD SHELL*1 ec 0",
  "0u*1 1 1;0SOFT*1 2 2;0TAPE CARTRIDGE;0WIRED KEYBOARD;0ONE BUTTON MOUSE;0TWO*1 1 1;0j*1 2 1",
  "0TRACKBALL;0OLD*1 f8 0;0HARD DISK;0SCREEN;0PRINTER ICON;0FAX ICON;0OPTICAL DISC ICON",
  "0DOCUMENT w TEXT;3k PICTURE;2PICTURE;0FRAME*1 1 1;2TILES;2AN X;0q FOLDER;0FOLDER;0oe FOLDER",
  "0CARD id DIVIDERS;1FILE BOX;0FILE CABINET;0EMPTY NOTE;2PAGE;2PAD;0*3 3 1;0EMPTY DOCUMENT;1PAGE",
  "1PAGES;0*3 3 1;0WASTEBASKET;0SPIRAL*1 b 1;1CALENDAR PAD;0DESKTOP WINDOW;0MINIMIZE;0MAXIMIZE",
  "0OVERLAP;0CLOCKWISE r k e SEMICIRCLE ARROWS;0CANCELLATION X;0INCREASE FONT SIZE y",
  "0DECREASE*1 1 1;0COMPRESSION;0OLD KEY;0ROLLED-UP*1 ee 0;0PAGE w cc TEXT;0STOCK CHART",
  "0DAGGER KNIFE;0LIPS;0SPEAKING HEAD*1 17f 1;0j RAYS b;2p;2e;2r;0e SPEECH BUBBLE;0r*1 1 1",
  "0TWO SPEECH BUBBLES;0j*1 1 1;0e THOUGHT BUBBLE;0r*1 1 1;0e ANGER BUBBLE;0r*1 1 1;0MOOD BUBBLE",
  "0LIGHTNING*1 1 0;1MOOD;0BALLOT BOX w BALLOT;1SCRIPT X;1BOX w*1 1 1;1BOLD*1 2 1;1BOX w*1 1 1",
  "0li CHECK x;0BALLOT BOX w BOLD CHECK;0WORLD MAP;0MOUNT FUJI;0TOKYO TOWER;0STATUE OF LIBERTY",
  "0SILHOUETTE OF JAPAN;0MOYAI;0GRINNING fa;2w SMILING EYES;0fa w TEARS OF JOY",
  "0SMILING fa w oe MOUTH;5k*1 3 3;6COLD SWEAT;6TIGHTLY-CLOSED EYES;3HALO;3HORNS;0WINKING fa",
  "0SMILING*1 9 1;0fa SAVOURING DELICIOUS FOOD;0RELIEVED fa;0SMILING fa w HEART-SHAPED EYES",
  "3*1 98 1;0SMIRKING fa;0NEUTRAL fa;0EXPRESSIONLESS fa;0UNAMUSED fa;0fa w*1 e 6;0PENSIVE fa",
  "0CONFUSED fa;0CONFOUNDED fa;0KISSING fa;0fa THROWING A KISS;0KISSING*1 18 1;3cl EYES",
  "0fa w STUCK-OUT TONGUE;4k WINKING EYE;4*1 17 5;0DISAPPOINTED fa;0WORRIED fa;0ANGRY fa",
  "0POUTING fa;0CRYING fa;0PERSEVERING fa;0fa w LOOK OF TRIUMPH;0DISAPPOINTED BUT*1 19 0",
  "0FROWNING*1 23 1;0ANGUISHED fa;0FEARFUL fa;0WEARY fa;0SLEEPY fa;0TIRED fa;0GRIMACING fa",
  "0LOUDLY*1 b 0;0*1 2b 1;0HUSHED fa;0*1 2b 1;1SCREAMING IN FEAR;0ASTONISHED fa;0FLUSHED fa",
  "0SLEEPING fa;0DIZZY fa;0fa WITHOUT MOUTH;1w MEDICAL MASK;0GRINNING CAT*1 37 1;0CAT*1 37 0",
  "0SMILING CAT*1 37 1;2*1 2e 1;0CAT fa w WRY SMILE;0KISSING CAT*1 23 1;0POUTING CAT fa",
  "0CRYING CAT fa;0WEARY CAT fa;0SLIGHTLY FROWNING fa;1SMILING fa;0UPSIDE-DOWN fa",
  "0fa w ROLLING EYES;2NO GOOD GESTURE;2OK*1 1 4;0PERSON BOWING DEEPLY;0SEE-NO-EVIL MONKEY",
  "0HEAR-NO-EVIL MONKEY;0SPEAK-NO-EVIL MONKEY;0HAPPY PERSON RAISING ONE HAND",
  "0PERSON RAISING BOTH HANDS IN CELEBRATION;1FROWNING;1w*1 2d 0;2FOLDED HANDS;0no WEST po LEAF",
  "0sb*1 1 1;0no es*1 2 2;0sb*1 1 1;0tu*4 4 0;0no WEST po VINE LEAF;0sb*1 1 1;0no es*1 2 2",
  "0sb*1 1 1;0he*4 4 0;0no WEST po BUD;0sb*1 1 1;0no es po BUD;0sb*1 1 1;0he*4 4 0",
  "0HOLLOW QUILT sq or;4IN q sq;0SOLID*2 2 1;0t ROCKET;0up ROCKET;0g ROCKET;0do ROCKET",
  "0SCRIPT lg ET or;0he*1 1 0;0lg oe ET or;0he*1 1 0;1AMPERSAND or;0SWASH*1 1 1",
  "0sa he d tu cm qu x or;3*1 1 4;2LOW*1 1 2;0he INTERROBANG or;0sa*1 1 1;0he*1 1 0",
  "0VERY he SOLIDUS;2REVERSE*1 1 2;0CHECKER BOARD;0REVERSE*1 1 0;0ROCKET;0HELICOPTER",
  "0STEAM LOCOMOTIVE;0RAILWAY CAR;0HIGH-SPEED TRAIN;2w BULLET NOSE;0TRAIN;0METRO;0li RAIL;0STATION",
  "0TRAM;1CAR;0BUS;0ONCOMING BUS;0TROLLEYBUS;0BUS so;0MINIBUS;0AMBULANCE;0FIRE ENGINE;0POLICE CAR",
  "0ONCOMING*1 1 0;0TAXI;0ONCOMING TAXI;0AUTOMOBILE;0ONCOMING*1 1 0;0RECREATIONAL VEHICLE",
  "0DELIVERY TRUCK;0ARTICULATED LORRY;0TRACTOR;0MONORAIL;0MOUNTAIN RAILWAY;0SUSPENSION*1 1 1",
  "0MOUNTAIN CABLEWAY;0AERIAL TRAMWAY;0SHIP;0ROWBOAT;0SPEEDBOAT;0z TRAFFIC li;0v*1 1 1",
  "0CONSTRUCTION s;0POLICE CARS REVOLVING li;0ta FLAG ON POST;0DOOR;0NO ENTRY s;0SMOKING y",
  "0NO*1 1 0;0PUT LITTER IN ITS PLACE y;0DO NOT LITTER y;0POTABLE WATER y;0NON-POTABLE*1 1 1",
  "0BICYCLE;0NO BICYCLES;0BICYCLIST;0MOUNTAIN*1 1 0;0PEDESTRIAN;0NO PEDESTRIANS;0CHILDREN cs",
  "0MENS y;0WOMENS y;0RESTROOM;0BABY y;0TOILET;0WATER CLOSET;0SHOWER;0BATH;0BATHTUB",
  "0PASSPORT CONTROL;0CUSTOMS;0BAGGAGE CLAIM;0e LUGGAGE;0tr w ROUNDED CORNERS;0PROHIBITED s",
  "0cc INFORMATION SOURCE;0BOYS y;0GIRLS y;0COUCH k LAMP;0SLEEPING ACCOMMODATION;0SHOPPING BAGS",
  "0BELLHOP BELL;0BED;0PLACE OF WORSHIP;0OCTAGONAL s;0SHOPPING TROLLEY;0STUPA;0PAGODA",
  "0HINDU TEMPLE;0HUT;0ELEVATOR;1f6dd:0PLAYGROUND SLIDE;0WHEEL;0rn BUOY;0HAMMER k WRENCH;0SHIELD",
  "0OIL DRUM;0MOTORWAY;0RAILWAY TRACK;0MOTOR BOAT;0UP-POINTING MILITARY AIRPLANE;1*1 1 2;1m*1 2 2",
  "0m*1 3 2;0NORTHEAST-POINTING*1 4 2;0AIRPLANE DEPARTURE;1ARRIVING;1f6f0:0SATELLITE",
  "0ONCOMING*1 57 0;0DIESEL*1 68 1;0PASSENGER SHIP;0SCOOTER;0MOTOR*1 1 0;0CANOE;0SLED",
  "0FLYING SAUCER;0SKATEBOARD;0AUTO RICKSHAW;0PICKUP TRUCK;0ROLLER SKATE",
  "1f700:0ALCHEMICAL y FOR QUINTESSENCE;3AIR;3FIRE;3EARTH;3WATER;3AQUAFORTIS;3AQUA REGIA;4REGIA-2",
  "4VITAE;4VITAE-2;3VINEGAR;3VINEGAR-2;+1;3SULFUR;3PHILOSOPHERS SULFUR;3q SULFUR",
  "3MERCURY SUBLIMATE;4SUBLIMATE-2;+1;3CINNABAR;3SALT;3NITRE;3VITRIOL;3VITRIOL-2;3ROCK SALT",
  "4SALT-2;3GOLD;3SILVER;3IRON ORE;4ORE-2;3CROCUS OF IRON;3REGULUS*1 1 4;3COPPER ORE",
  "3IRON-COPPER ORE;3SUBLIMATE OF COPPER;3CROCUS*1 1 4;5COPPER-2;3COPPER ANTIMONIATE",
  "3SALT OF*1 1 3;3SUBLIMATE OF SALT*1 5 4;3VERDIGRIS;3TIN ORE;3LEAD ORE;3ANTIMONY ORE",
  "3SUBLIMATE OF ANTIMONY;3SALT*1 1 4;3SUBLIMATE OF*1 1 3;3VINEGAR*1 3 4;3REGULUS*1 4 4",
  "5ANTIMONY-2;3REGULUS;3REGULUS-2;+2;3ALKALI;3ALKALI-2;3MARCASITE;3SAL-AMMONIAC;3ARSENIC;3REALGAR",
  "3REALGAR-2;3AURIPIGMENT;3BISMUTH ORE;3TARTAR;3TARTAR-2;3QUICK LIME;3BORAX;3BORAX-2;+1;3ALUM",
  "3OIL;3SPIRIT;3TINCTURE;3GUM;3WAX;3POWDER;3CALX;3TUTTY;3CAPUT MORTUUM;3SCEPTER OF JOVE;3CADUCEUS",
  "3TRIDENT;3STARRED*1 1 3;3LODESTONE;3SOAP;3URINE;3HORSE DUNG;3ASHES;3POT ASHES;3BRICK",
  "3POWDERED BRICK;3AMALGAM;3STRATUM SUPER STRATUM;5STRATUM-2;3SUBLIMATION;3PRECIPITATE;3DISTILL",
  "3DISSOLVE;3DISSOLVE-2;3PURIFY;3PUTREFACTION;3CRUCIBLE;3CRUCIBLE-2;+3;3ALEMBIC;3BATH OF MARY",
  "5VAPOURS;3RETORT;3HOUR;3NIGHT;3DAY-NIGHT;3MONTH;3hl DRAM;4OUNCE;1f780:0q lf ISOSCELES r tr",
  "1UP-POINTING*1 1 2;1ri*1 2 2;1dn*1 3 2;1SLIGHTLY m ci;0me BOLD u ci;0*1 1 1;0he u ci",
  "0VERY*1 1 0;0EXTREMELY*1 2 0;0u ci CONTAINING q m ci;0ROUND TARGET;0q TINY sq;1SLIGHTLY m sq",
  "0li u sq;0me u sq;0BOLD u sq;0he u sq;0VERY*1 1 0;0EXTREMELY*1 2 0;0u sq CONTAINING q VERY m sq",
  "4me sq;0sq TARGET;0q TINY dm;1VERY m dm;1me m dm;0u dm CONTAINING*1 2 0;4me dm;0dm TARGET",
  "0q TINY LOZENGE;1VERY m*1 1 2;1me*1 1 2;0u LOZENGE CONTAINING q*1 2 2;0THIN GREEK cb;0li*1 1 1",
  "0me*1 2 1;0BOLD*1 3 1;0VERY*1 1 0;1he*1 5 1;0EXTREMELY*1 1 1;0THIN SALTIRE;0li*1 1 1;0me*1 2 1",
  "0BOLD*1 3 1;0he*1 4 1;0VERY*1 1 0;0EXTREMELY*1 2 0;0li fi SPOKED as;0me*1 1 1;0BOLD*1 2 1",
  "0he*1 3 1;0VERY*1 1 0;0EXTREMELY*1 2 0;0li SIX*1 6 2;0me*1 1 1;0BOLD*1 2 1;0he*1 3 1",
  "0VERY*1 1 0;0EXTREMELY*1 2 0;0li ei*1 c 2;0me*1 1 1;0BOLD*1 2 1;0he*1 3 1;0VERY*1 1 0",
  "0li j pi q STAR;0me*1 1 1;0*1 2 1;0me j pi PINWHEEL STAR;0li fo*1 4 2;0me*1 1 1;0*1 2 1",
  "0me fo*1 4 2;0REVERSE li*1 1 1;0li fi*1 9 2;0he*1 1 1;0me SIX*1 b 2;0he*1 1 1;0SIX*1 a 2",
  "0me ei*1 e 2;0he*1 1 1;0VERY*1 1 0;0he ei*1 e 2;0li TWELVE*1 12 2;0he*1 1 1;2*1 11 2;0cc tr",
  "0NEGATIVE cc tr;0cc sq;0NEGATIVE cc sq;1f7e0:0la ORANGE ci;1YELLOW ci;1GREEN ci;1PURPLE ci",
  "1BROWN ci;1RED sq;1BLUE sq;1ORANGE sq;1YELLOW sq;1GREEN sq;1PURPLE sq;1BROWN sq;1f7f0:0he ea s",
  "1f800:0t a w m tr ar;0up*1 1 1;0g*1 2 1;0do*1 3 1;0t a w me tr ar;0up*1 1 1;0g*1 2 1;0do*1 3 1",
  "0t a w la tr ar;0up*1 1 1;0g*1 2 1;0do*1 3 1;1f810:0t a w m eu ar;0up*1 1 1;0g*1 2 1;0do*1 3 1",
  "0t a w eu ar;0up*1 1 1;0g*1 2 1;0do*1 3 1;0he*4 4 0;1t a w la eu ar;1up*1 1 2;1g*1 2 2",
  "1do*1 3 2;0t o a w NARROW SHAFT;0up*1 1 1;0g*1 2 1;0do*1 3 1;0t o a w me SHAFT;0up*1 1 1",
  "0g*1 2 1;0do*1 3 1;0t o a w BOLD SHAFT;0up*1 1 1;0g*1 2 1;0do*1 3 1;0t o a w he SHAFT;0up*1 1 1",
  "0g*1 2 1;0do*1 3 1;0t o a w VERY*1 4 4;0up*1 1 1;0g*1 2 1;0do*1 3 1;0t FINGER-POST a;0up*1 1 1",
  "0g*1 2 1;0do*1 3 1;0t su a;0up su a;0g su a;0do su a;0t COMPRESSED a;0up*1 1 1;0g*1 2 1",
  "0do*1 3 1;0t he*1 4 1;0up*1 1 1;0g*1 2 1;0do*1 3 1;0t he a;0up he a;0g he a;0do he a",
  "1f850:0t sa a;0up sa a;0g sa a;0do sa a;0no WEST sa a;1es sa a;0sb*1 1 1;1*1 3 1;0e r sa a",
  "0UP dw sa a;1f860:0WIDE-HEADED t li ba a;1up*1 1 2;1g*1 2 2;1do*1 3 2;1no WEST*1 4 2;2es*1 5 2",
  "1sb*1 1 2;2*1 3 2;1t ba a;1up ba a;1g ba a;1do ba a;1no WEST ba a;2es ba a;1sb*1 1 2;2*1 3 2",
  "1t me ba a;1up*1 1 2;1g*1 2 2;1do*1 3 2;1no WEST*1 4 2;2es*1 5 2;1sb*1 1 2;2*1 3 2;1t he ba a",
  "1up*1 1 2;1g*1 2 2;1do*1 3 2;1no WEST*1 4 2;2es*1 5 2;1sb*1 1 2;2*1 3 2;1t VERY*1 8 2;1up*1 1 2",
  "1g*1 2 2;1do*1 3 2;1no WEST*1 4 2;2es*1 5 2;1sb*1 1 2;2*1 3 2;1f890:0t tr ar;0up tr ar;0g tr ar",
  "0do tr ar;0t u a WITHIN tr ar;0up*1 1 1;0g*1 2 1;0do*1 3 1;0t a w NOTCHED TAIL;0up*1 1 1",
  "0g*1 2 1;0do*1 3 1;0he a SHAFT WIDTH ONE;4TWO THIRDS;4ONE hl;5THIRD;0t BOTTOM-SHADED u a",
  "0g bo SHADED u a;0t TOP*1 1 2;0g*1 1 1;0t LEFT-SHADED u a;0g RIGHT-SHADED u a;0t*1 1 1;0g*1 3 1",
  "0t BACK-TILTED SHADOWED u a;0g*1 1 1;0t FRONT-TILTED*1 2 2;0g*1 1 1;0u*2 10 1",
  "1f8b0:0a po up THEN no WEST;2g THEN CURVING sb WEST;1f900:0cc cb FORMEE w fo dt;4TWO dt;2FORMEE",
  "0e hl ci*1 3 3;4j dt;4TWO dt;4DOT;2ci;0DOWNWARD FACING ho;2NOTCHED ho;2ho w DOT;2NOTCHED*1 1 2",
  "0PINCHED FINGERS;0u HEART;0BROWN HEART;0PINCHING HAND;0ZIPPER-MOUTH fa;0MONEY-MOUTH fa",
  "0fa w*1 556 0;0NERD fa;0THINKING fa;0fa w HEAD-BANDAGE;0ROBOT fa;0HUGGING fa;0s OF THE HORNS",
  "0CALL ME HAND;0RAISED BACK OF HAND;0LEFT-FACING FIST;0RIGHT-FACING FIST;0HANDSHAKE",
  "0HAND w id k mi FINGERS CROSSED;0I LOVE YOU HAND s;0fa w COWBOY HAT;0CLOWN fa;0NAUSEATED fa",
  "0ROLLING ON THE FLOOR LAUGHING;0DROOLING fa;0LYING fa;0fa PALM;0SNEEZING fa",
  "0fa w ONE EYEBROW RAISED;0GRINNING fa w STAR EYES;3ONE la k ONE m EYE",
  "0fa w FINGER COVERING cl LIPS;0SERIOUS fa w SYMBOLS COVERING MOUTH",
  "0SMILING fa w SMILING EYES k HAND*1 1 4;0fa w oe MOUTH VOMITING;0SHOCKED fa w EXPLODING HEAD",
  "0PREGNANT WOMAN;0BREAST-FEEDING;0PALMS UP TOGETHER;0SELFIE;0PRINCE;0MAN IN TUXEDO",
  "0MOTHER*1 516 1;0SHRUG;0PERSON DOING CARTWHEEL;0JUGGLING;0FENCER;0MODERN PENTATHLON;0WRESTLERS",
  "0WATER POLO;0HANDBALL;0DIVING MASK;0WILTED FLOWER;0DRUM w DRUMSTICKS;0CLINKING GLASSES",
  "0TUMBLER GLASS;0SPOON;0GOAL NET;0RIFLE;0FIRST PLACE MEDAL;0SECOND*1 1 1;0THIRD*1 2 1",
  "0BOXING GLOVE;0MARTIAL ARTS UNIFORM;0CURLING STONE;0LACROSSE*1 4e1 2;0SOFTBALL;0FLYING DISC",
  "0CROISSANT;0AVOCADO;0CUCUMBER;0BACON;0POTATO;0CARROT;0BAGUETTE BREAD;0GREEN SALAD",
  "0SHALLOW PAN OF FOOD;0STUFFED FLATBREAD;0EGG;0GLASS OF MILK;0PEANUTS;0KIWIFRUIT;0PANCAKES",
  "0DUMPLING;0FORTUNE COOKIE;0TAKEOUT BOX;0CHOPSTICKS;0BOWL w SPOON;0CUP w STRAW;0COCONUT",
  "0BROCCOLI;0PIE;0PRETZEL;0CUT OF MEAT;0SANDWICH;0CANNED FOOD;0LEAFY GREEN;0MANGO;0MOON CAKE",
  "0BAGEL;0SMILING fa w SMILING EYES k j HEARTS;0YAWNING fa;0SMILING fa w TEAR",
  "0fa w PARTY HORN k PARTY HAT;2UNEVEN EYES k WAVY MOUTH;0OVERHEATED fa;0FREEZING fa;0NINJA",
  "0DISGUISED fa;0fa HOLDING BACK TEARS;1w PLEADING EYES;0SARI;0LAB COAT;0GOGGLES;0HIKING BOOT",
  "0FLAT SHOE;0CRAB;0LION fa;0SCORPION;0TURKEY;0UNICORN fa;0EAGLE;0DUCK;0BAT;0SHARK;0OWL;0FOX fa",
  "0BUTTERFLY;0DEER;0GORILLA;0LIZARD;0RHINOCEROS;0SHRIMP;0SQUID;0GIRAFFE fa;0ZEBRA fa;0HEDGEHOG",
  "0SAUROPOD;0T-REX;0CRICKET;0KANGAROO;0LLAMA;0PEACOCK;0HIPPOPOTAMUS;0PARROT;0RACCOON;0LOBSTER",
  "0MOSQUITO;0MICROBE;0BADGER;0SWAN;0MAMMOTH;0DODO;0SLOTH;0OTTER;0ORANGUTAN;0SKUNK;0FLAMINGO",
  "0OYSTER;0BEAVER;0BISON;0SEAL;0GUIDE DOG;0PROBING CANE;0EMOJI COMPONENT RED HAIR;2CURLY HAIR",
  "2BALD;2u HAIR;0BONE;0LEG;0FOOT;0TOOTH;0SUPERHERO;0SUPERVILLAIN;0SAFETY VEST;0EAR w HEARING AID",
  "0MOTORIZED WHEELCHAIR;0MANUAL*1 1 1;0MECHANICAL ARM;1LEG;0CHEESE WEDGE;0CUPCAKE;0SALT SHAKER",
  "0BEVERAGE BOX;0GARLIC;0ONION;0FALAFEL;0WAFFLE;0BUTTER;0MATE DRINK;0ICE CUBE;0BUBBLE TEA;0TROLL",
  "0STANDING PERSON;0KNEELING PERSON;0DEAF PERSON;0fa w MONOCLE;0ADULT;0CHILD;0OLDER ADULT",
  "0BEARDED PERSON;0PERSON w HEADSCARF;1IN STEAMY ROOM;1CLIMBING;1IN LOTUS POSITION;0MAGE;0FAIRY",
  "0VAMPIRE;0MERPERSON;0ELF;0GENIE;0ZOMBIE;0BRAIN;0ORANGE HEART;0BILLED CAP;0SCARF;0GLOVES;0COAT",
  "0SOCKS;0RED GIFT ENVELOPE;0FIRECRACKER;0JIGSAW PUZZLE PIECE;0TEST TUBE;0PETRI DISH;0DNA d HELIX",
  "0COMPASS;0ABACUS;0FIRE EXTINGUISHER;0TOOLBOX;0BRICK;0MAGNET;0LUGGAGE;0LOTION BOTTLE",
  "0SPOOL OF THREAD;0BALL OF YARN;0SAFETY PIN;0TEDDY BEAR;0BROOM;0BASKET;0ROLL OF PAPER",
  "0BAR OF SOAP;0SPONGE;0RECEIPT;0NAZAR AMULET;0NEUTRAL CHESS KING;2QUEEN;2ROOK;2BISHOP;2KNIGHT",
  "2PAWN;0u CHESS KNIGHT ro FORTY-FIVE de;0q*1 1 1;0NEUTRAL*1 2 1;0u CHESS KING ro nn de",
  "2QUEEN*1 1 3;2ROOK*1 2 3;2BISHOP*1 3 3;2KNIGHT*1 4 3;2PAWN*1 5 3;0q*6 6 1;0NEUTRAL*6 c 1",
  "0u CHESS KNIGHT ro ONE hu THIRTY-FIVE de;0q*1 1 1;0NEUTRAL*1 2 1;0u CHESS tu*6 1e 2;0q*6 6 1",
  "0NEUTRAL*6 c 1;0u CHESS KNIGHT ro TWO hu TWENTY-FIVE de;0q*1 1 1;0NEUTRAL*1 2 1",
  "0u CHESS KING ro TWO hu sv de;2QUEEN*1 1 3;2ROOK*1 2 3;2BISHOP*1 3 3;2KNIGHT*1 4 3;2PAWN*1 5 3",
  "0q*6 6 1;0NEUTRAL*6 c 1;0u CHESS KNIGHT ro j hu FIFTEEN de;0q*1 1 1;0NEUTRAL*1 2 1",
  "0u CHESS EQUIHOPPER;0q*1 1 1;0NEUTRAL*1 2 1;0u CHESS EQUIHOPPER*1 42 3;0q*1 1 1;0NEUTRAL*1 2 1",
  "0u CHESS KNIGHT-QUEEN;2KNIGHT-ROOK;2KNIGHT-BISHOP;0q*3 3 1;1fa60:0XIANGQI RED GENERAL;2MANDARIN",
  "2ELEPHANT;2HORSE;2CHARIOT;2CANNON;2SOLDIER;1q*7 7 2;1fa70:0BALLET SHOES;0ONE-PIECE SWIMSUIT",
  "0BRIEFS;0SHORTS;0THONG SANDAL;1fa78:0DROP OF BLOOD;0ADHESIVE BANDAGE;0STETHOSCOPE;0X-RAY",
  "0CRUTCH;1fa80:0YO-YO;0KITE;0PARACHUTE;0BOOMERANG;0MAGIC WAND;0PINATA;0NESTING DOLLS",
  "1fa90:0RINGED PLANET;0CHAIR;0RAZOR;0AXE;0DIYA LAMP;0BANJO;0MILITARY HELMET;0ACCORDION;0ln DRUM",
  "0COIN;0CARPENTRY SAW;0SCREWDRIVER;0LADDER;0ho;0MIRROR;0WINDOW;0PLUNGER;0SEWING NEEDLE;0KNOT",
  "0BUCKET;0MOUSE TRAP;0TOOTHBRUSH;0HEADSTONE;0PLACARD;0ROCK;0MIRROR BALL;0IDENTIFICATION CARD",
  "0LOW BATTERY;0HAMSA;1fab0:0FLY;0WORM;0BEETLE;0COCKROACH;0POTTED PLANT;0WOOD;0FEATHER;0LOTUS",
  "0CORAL;0EMPTY NEST;0NEST w EGGS;1fac0:0ANATOMICAL HEART;0LUNGS;0PEOPLE HUGGING;0PREGNANT MAN",
  "1PERSON;0PERSON w CROWN;1fad0:0BLUEBERRIES;0BELL PEPPER;0OLIVE;0FLATBREAD;0TAMALE;0FONDUE",
  "0TEAPOT;0POURING LIQUID;0BEANS;0JAR;1fae0:0MELTING fa;0SALUTING fa",
  "0fa w oe EYES k HAND ov MOUTH;2PEEKING EYE;2da MOUTH;0dd lc fa;0BITING LIP;0BUBBLES",
  "1faf0:0HAND w id FINGER k tm CROSSED;0g HAND;0t HAND;0PALM dw HAND;1UP HAND",
  "0id po AT THE VIEWER;0HEART HANDS;1fb00:0bl SEXTANT-1;+1;1SEXTANT-12;1SEXTANT-3;1SEXTANT-13",
  "1SEXTANT-23;1SEXTANT-123;1SEXTANT-4;1SEXTANT-14;1SEXTANT-24;1SEXTANT-124;1SEXTANT-34",
  "1SEXTANT-134;1SEXTANT-234;1SEXTANT-1234;1SEXTANT-5;1SEXTANT-15;1SEXTANT-25;1SEXTANT-125",
  "1SEXTANT-35;1SEXTANT-235;1SEXTANT-1235;1SEXTANT-45;1SEXTANT-145;1SEXTANT-245;1SEXTANT-1245",
  "1SEXTANT-345;1SEXTANT-1345;1SEXTANT-2345;1SEXTANT-12345;1SEXTANT-6;1SEXTANT-16;1SEXTANT-26",
  "1SEXTANT-126;1SEXTANT-36;1SEXTANT-136;1SEXTANT-236;1SEXTANT-1236;1SEXTANT-46;1SEXTANT-146",
  "1SEXTANT-1246;1SEXTANT-346;1SEXTANT-1346;1SEXTANT-2346;1SEXTANT-12346;1SEXTANT-56;1SEXTANT-156",
  "1SEXTANT-256;1SEXTANT-1256;1SEXTANT-356;1SEXTANT-1356;1SEXTANT-2356;1SEXTANT-12356;1SEXTANT-456",
  "1SEXTANT-1456;1SEXTANT-2456;1SEXTANT-12456;1SEXTANT-3456;1SEXTANT-13456;1SEXTANT-23456",
  "0lo e bl da lo mi e TO lo ce;9r;4ue*2 2 5;5*1 4 6;1r bl da ue mi e TO ue ce;9r;4lo*2 2 5",
  "5*1 4 6;5mi e TO ue mi r;5ce TO lo mi r;5e*1 1 6;5ce*1 3 7;5*1 4 6;5ce*1 9 7;1e bl da ue*2 3 5",
  "5*2 7 5;5ce TO lo r;5mi*1 9 5;0ue r*5 16 2;1e*b 16 2;1r*6 16 2;1k r k lo ta j QUARTERS bl",
  "0e k lo k r*1 1 5;0ue k e*1 2 3;0e k ue*1 2 3;1ta ONE qa bl;0ue*1 1 1;0r*1 2 1;0lo*1 3 1",
  "0v ONE EIGHTH BLOCK-2;+5;0z*6 6 1;0e k lo ONE EIGHTH bl;2ue*1 1 3;0r*1 1 1;1*1 3 1;0ue*1 4 1",
  "0z ONE EIGHTH BLOCK-1358;0ue*1 16 2;1j EIGHTHS bl;1fi*1 1 2;1*1 1d 6;1se*1 3 2;0r*5 5 1",
  "0e hl me SHADE;0r*1 1 1;0ue*1 2 1;0lo*1 3 1;0INVERSE*1 4 2;0ue hl bl k lo hl*1 1 0",
  "2INVERSE me SHADE k lo hl bl;1fb94:0e hl INVERSE me SHADE k r hl bl;0CHECKER BOARD FILL",
  "0INVERSE*1 1 0;0he z FILL;0ue e TO lo r FILL;1r TO lo e FILL;1k lo ta hl bl;0e k r*1 1 3",
  "0ue e ta*1 f 2;1r*1 1 2;0lo*1 1 1;1*1 3 1;0BOX DRAWINGS li da ue ce TO mi e;8r;4*1 65 5",
  "5r*1 66 7;4ue ce TO*2 2 4;4mi e TO lo*1 5 5;7*1 6 4;4ue ce TO mi e k*1 5 4;8r k*1 6c 5",
  "9TO lo*1 a 5;7*1 5 4;4mi e TO*1 7 4;5r TO*1 9 4;4dm;3z w v st;0ARROWHEAD-SHAPED POINTER",
  "0INVERSE CHECK x;0e hl RUNNING MAN;0r*1 1 1;0INVERSE do a w TIP t;0t a k*1 34 0;0g*1 1 1",
  "0do a k r*1 3a 3;0up*1 1 1;0e hl FOLDER;0r*1 1 1;0VOIDED GREEK cb;0r oe su DOT;0NEGATIVE da cb",
  "1*1 1b 3;2dm;0u he SALTIRE*1 418 1;0e THIRD*1 546 1;0mi*1 1 1;0r*1 2 1;0NEGATIVE su qe x",
  "0STICK FIGURE;2w ARMS RAISED;2LEANING e;3r;2w DRESS;0u UP-POINTING CHEVRON",
  "1fbf0:0SEGMENTED dg ze;2ONE;2TWO;2j;2fo;2fi;2SIX;2se;2ei;2ni;e0001:0LANGUAGE TAG",
  "e0020:0TAG SPACE;1ex x;1qu x;1nu s;1DOLLAR s;1PERCENT s;1AMPERSAND;1APOSTROPHE;1e pa;1r pa;1as",
  "1pl s;1cm;1HYPHEN-MINUS;1FULL so;1SOLIDUS;1*a 1b 1;1COLON;1SEMICOLON;1le s;1ea s;1gr s;1qe x",
  "1COMMERCIAL AT;1*1a 90d 1;1e sq br;1*1 4b3 2;1r sq br;1cr ad;1LOW lc;1ga ad;1lb m*1a 92d 3",
  "1e CURLY br;1v lc;1r*1 2 2;1tl;0CANCEL TAG;e0100:0VARIATION SELECTOR-17;+ef"]

end Dalvik.Text
